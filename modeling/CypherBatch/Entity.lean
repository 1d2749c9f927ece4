import CypherBatch.ShapeError
import CypherBatch.Value.Shape

/-!
# Entities of a pattern

A node or edge of a pattern has labels and is bound by a property map, by a
distance, or not at all.  `Entity.ofGroup` sorts a loosely shaped group into
these parts: each item is classified on its own, and two items of one role are
refused.  A group of two or more labels and nothing else is one list of labels.
-/

namespace CypherBatch

/-- What a pattern binds an entity by. -/
inductive Binding where
  | free
  | props (fields : PropertyMap)
  | distance (text : String)
deriving DecidableEq

/-- One node or edge of a pattern. -/
structure Entity where
  binding : Binding
  labels : List String
deriving DecidableEq

namespace Entity

/-- The property map of an entity, which may be empty. -/
def props? (x : Entity) : Option PropertyMap :=
  match x.binding with
  | .props fields => some fields
  | _ => none

def distance? (x : Entity) : Option String :=
  match x.binding with
  | .distance text => some text
  | _ => none

/-- The property map of an entity, if it says anything. -/
def boundProps? (x : Entity) : Option PropertyMap :=
  match x.binding with
  | .props [] => none
  | .props fields => some fields
  | _ => none

/-- The entity of a property map or a distance; both together are refused. -/
def ofParts (props : Option PropertyMap) (distance : Option String) (labels : List String) :
    Except ShapeError Entity :=
  match props, distance with
  | some _, some _ => .error .boundTwice
  | some fields, none => .ok ⟨.props fields, labels⟩
  | none, some text => .ok ⟨.distance text, labels⟩
  | none, none => .ok ⟨.free, labels⟩

end Entity

/-- The role that one item plays in the description of an entity. -/
inductive EntityPart where
  | nothing
  | binding (b : Binding)
  | labels (names : List String)
  | unknown
deriving DecidableEq

namespace EntityPart

/-- The role of a value.  Null and the empty list say nothing. -/
def ofValue : Value → EntityPart
  | .null => .nothing
  | .map fields => .binding (.props fields)
  | .list [] => .nothing
  | .str s => if Value.isDistanceText s then .binding (.distance s) else .labels [s]
  | v =>
      match v.labelNames? with
      | some names => .labels names
      | none => .unknown

end EntityPart

/-- The parts of an entity found so far. -/
structure EntityDraft where
  binding? : Option Binding
  labels? : Option (List String)
deriving DecidableEq

namespace EntityDraft

def empty : EntityDraft := ⟨none, none⟩

def add (group : Value) (draft : EntityDraft) (item : Value) : Except ShapeError EntityDraft :=
  match EntityPart.ofValue item with
  | .nothing => .ok draft
  | .binding b =>
      match draft.binding? with
      | some _ => .error (.secondBinding group)
      | none => .ok { draft with binding? := some b }
  | .labels names =>
      match draft.labels? with
      | some _ => .error (.secondLabel group)
      | none => .ok { draft with labels? := some names }
  | .unknown => .error (.noRole item)

def entity (draft : EntityDraft) : Entity :=
  ⟨draft.binding?.getD .free, draft.labels?.getD []⟩

end EntityDraft

namespace Entity

/-- The entity that the items of a group describe, one by one. -/
def ofItems (group : Value) (items : List Value) : Except ShapeError Entity :=
  (items.foldlM (EntityDraft.add group) EntityDraft.empty).map EntityDraft.entity

/--
The entity that a group describes: nothing, a single part, or a list of parts in
any order.
-/
def ofGroup (group : Value) : Except ShapeError Entity :=
  match group with
  | .null => .ok ⟨.free, []⟩
  | .list (v :: w :: rest) =>
      match Value.labelNamesOf? (v :: w :: rest) with
      | some names => .ok ⟨.free, names⟩
      | none => ofItems group (v :: w :: rest)
  | .list items => ofItems group items
  | v => ofItems group [v]

/-- The order of the parts does not matter, and two labels are one list. -/
example :
    (ofGroup (.list [.str "alpha", .map [("k", .null)]])).toOption =
      some ⟨.props [("k", .null)], ["alpha"]⟩ ∧
    (ofGroup (.list [.str "next", .str "after"])).toOption = some ⟨.free, ["next", "after"]⟩ := by
  decide +kernel

end Entity
end CypherBatch
