import CypherBatch.Pattern
import CypherBatch.Proofs.Entities

/-!
# Values with other property maps

The readers of arguments see that there is a property map and hand it on, but they do not look
into it.  So when each map in the arguments is changed, rank and roles stay as they are, the
call is split into the changed units, and a group is read as the changed entity, or refused
as it was before.

`remap` changes the maps of a value at any depth.  The changes that matter elsewhere forget
something: what is stored under the keys of a map, all of it but whether it is legal, or the
keys as well.
-/

namespace CypherBatch

open Outcome

namespace Value

mutual

/-- The value with each of its property maps changed. -/
def remap (f : PropertyMap → PropertyMap) : Value → Value
  | .list items => .list (remapAll f items)
  | .map fields => .map (f fields)
  | v => v

def remapAll (f : PropertyMap → PropertyMap) : List Value → List Value
  | [] => []
  | v :: rest => remap f v :: remapAll f rest

end

section Shapes

variable (f g : PropertyMap → PropertyMap)

theorem remapAll_eq_map (items : List Value) :
    remapAll f items = items.map (remap f) := by
  induction items with
  | nil =>
      rfl
  | cons v rest ih =>
      rw [remapAll, ih, List.map_cons]

@[simp] theorem remap_list (items : List Value) :
    remap f (.list items) = .list (items.map (remap f)) := by
  rw [remap, remapAll_eq_map]

@[simp] theorem remap_map (fields : PropertyMap) :
    remap f (.map fields) = .map (f fields) := by
  rw [remap]

@[simp] theorem remap_str (s : String) :
    remap f (.str s) = .str s := by
  rw [remap] <;> simp

mutual

/-- Two changes one after another are one change. -/
theorem remap_remap : ∀ v : Value, (v.remap f).remap g = v.remap (g ∘ f)
  | .list items => by
      rw [remap, remap, remap, remapAll_remapAll items]
  | .map fields => by
      rw [remap_map, remap_map, remap_map, Function.comp_apply]
  | .null | .bool _ | .int _ | .float _ | .str _ => by
      simp [remap]

theorem remapAll_remapAll :
    ∀ items : List Value, remapAll g (remapAll f items) = remapAll (g ∘ f) items
  | [] => rfl
  | v :: rest => by
      rw [remapAll, remapAll, remapAll, remap_remap v, remapAll_remapAll rest]

end

@[simp] theorem isMultiLabel_remap (v : Value) :
    (v.remap f).isMultiLabel = v.isMultiLabel := by
  match v with
  | .null | .bool _ | .int _ | .float _ | .str _ | .map _ | .list [] | .list [_] =>
      simp [remap, remapAll, isMultiLabel]
  | .list (v :: w :: rest) =>
      cases v <;> simp [remap, remapAll, isMultiLabel]

@[simp] theorem isEntityPart_remap (v : Value) :
    (v.remap f).isEntityPart = v.isEntityPart := by
  cases v with
  | list items =>
      rw [remap_list, isEntityPart_list, isEntityPart_list, ← remap_list, isMultiLabel_remap]
  | null | bool | int | float | str | map =>
      simp [remap, isEntityPart, isMultiLabel]

@[simp] theorem all_isEntityPart_remap (items : List Value) :
    (items.map (remap f)).all isEntityPart = items.all isEntityPart := by
  simp [Function.comp_def]

@[simp] theorem rank_remap (v : Value) :
    (v.remap f).rank = v.rank := by
  fun_induction rank v with
  | case1 v rest h =>
      have hparts : (v :: rest).all isEntityPart = true := h
      rw [remap_list, rank_list_of_parts (by rw [all_isEntityPart_remap, hparts])]
  | case2 v rest h ih =>
      have hparts : (v :: rest).all isEntityPart = false := by
        simpa using h
      rw [remap_list, List.map_cons, rank_list_cons_of_not_parts, ih]
      rw [← List.map_cons, all_isEntityPart_remap, hparts]
  | case3 v h =>
      cases v with
      | list items =>
          cases items with
          | nil =>
              rfl
          | cons v rest =>
              exact absurd rfl (h v rest)
      | null | bool | int | float | str | map =>
          simp [remap, rank]

@[simp] theorem spliced_remap (v : Value) :
    (v.remap f).spliced = v.spliced.map (remap f) := by
  cases v <;> simp [spliced, remap, remapAll_eq_map]

@[simp] theorem labelName?_remap (v : Value) :
    labelName? (v.remap f) = labelName? v := by
  cases v <;> simp [labelName?, remap]

@[simp] theorem labelNamesOf?_remap (items : List Value) :
    labelNamesOf? (items.map (remap f)) = labelNamesOf? items := by
  induction items with
  | nil =>
      rfl
  | cons v rest ih =>
      rw [List.map_cons, labelNamesOf?, labelNamesOf?, labelName?_remap, ih]

end Shapes

end Value

namespace Units

open Value

variable (f : PropertyMap → PropertyMap)

theorem splice_remap (values : List Value) :
    splice (values.map (remap f)) = (splice values).map (remap f) := by
  simp [splice, List.flatMap_map, List.map_flatMap]

theorem spliceTimes_remap (n : Nat) (values : List Value) :
    spliceTimes n (values.map (remap f)) = (spliceTimes n values).map (remap f) := by
  induction n generalizing values with
  | zero =>
      rfl
  | succ n ih =>
      rw [spliceTimes, spliceTimes, splice_remap, ih]

/-- Changed arguments are split into the changed units. -/
theorem resolve_remap (unitRank : Int) (args : List Value) :
    resolve unitRank (args.map (remap f)) =
      (resolve unitRank args).map (List.map (List.map (remap f))) := by
  have hrank : rank (.list (args.map (remap f))) = rank (.list args) := by
    rw [← remap_list, rank_remap]
  have hconvention : convention unitRank (args.map (remap f)) = convention unitRank args := by
    rw [convention, convention, hrank]
  have hflatten : flattenTo (unitRank + 1) (args.map (remap f)) =
      (flattenTo (unitRank + 1) args).map (remap f) := by
    rw [flattenTo, flattenTo, flattenFrom, flattenFrom, hrank, spliceTimes_remap]
  unfold resolve
  rw [hconvention, hflatten]
  cases convention unitRank args with
  | error e =>
      rfl
  | ok convention =>
      cases convention with
      | unit =>
          rfl
      | units | boxed =>
          simp [Function.comp_def]

end Units

/-- The binding with its property map changed. -/
def Binding.remap (f : PropertyMap → PropertyMap) : Binding → Binding
  | .props fields => .props (f fields)
  | b => b

/-- The entity with its property map changed. -/
def Entity.remap (f : PropertyMap → PropertyMap) (x : Entity) : Entity :=
  ⟨x.binding.remap f, x.labels⟩

section Readings

variable (f : PropertyMap → PropertyMap)

namespace EntityPart

/-- The part with its property map changed. -/
def remap : EntityPart → EntityPart
  | binding b => binding (b.remap f)
  | part => part

/-- A changed value plays the role that it played. -/
theorem ofValue_remap (v : Value) :
    ofValue (v.remap f) = (ofValue v).remap f := by
  match v with
  | .null | .bool _ | .int _ | .float _ | .list [] | .map _ =>
      rfl
  | .str s =>
      rw [Value.remap_str, ofValue]
      split <;> rfl
  | .list (v :: rest) =>
      rw [Value.remap_list, List.map_cons, ofValue_list_cons, ← List.map_cons,
        Value.labelNamesOf?_remap, ofValue_list_cons]
      cases Value.labelNamesOf? (v :: rest) <;> rfl

theorem remap_eq_unknown_iff (part : EntityPart) :
    part.remap f = .unknown ↔ part = .unknown := by
  cases part <;> simp [remap]

@[simp] theorem binding?_remap (part : EntityPart) :
    (part.remap f).binding? = part.binding?.map (Binding.remap f) := by
  cases part <;> rfl

@[simp] theorem labels?_remap (part : EntityPart) :
    (part.remap f).labels? = part.labels? := by
  cases part <;> rfl

end EntityPart

namespace Entity

open Value

@[simp] theorem props?_remap (x : Entity) : (x.remap f).props? = x.props?.map f := by
  obtain ⟨binding, labels⟩ := x
  cases binding <;> rfl

@[simp] theorem distance?_remap (x : Entity) : (x.remap f).distance? = x.distance? := by
  obtain ⟨binding, labels⟩ := x
  cases binding <;> rfl

theorem distance?_eq_of_remap_eq
    {x x' : Entity} (h : x.remap f = x'.remap f) : x.distance? = x'.distance? := by
  rw [← distance?_remap f, h, distance?_remap]

theorem remap_getD (b? : Option Binding) (names? : Option (List String)) :
    remap f ⟨b?.getD .free, names?.getD []⟩ =
      ⟨(b?.map (Binding.remap f)).getD .free, names?.getD []⟩ := by
  cases b? <;> rfl

/-- A list is at most one item if a change of it is. -/
theorem exists_toList_of_map
    {α β : Type} {g : α → β} {items : List α} {c? : Option β} (h : items.map g = c?.toList) :
    ∃ b? : Option α, items = b?.toList ∧ b?.map g = c? := by
  cases c? with
  | none =>
      exact ⟨none, List.map_eq_nil_iff.1 h, rfl⟩
  | some c =>
      obtain ⟨b, rfl, rfl⟩ := List.map_eq_singleton_iff.1 h
      exact ⟨some b, rfl, rfl⟩

/-- Changed items describe the changed entity. -/
theorem ofItems_remap_eq_ok_iff
    {group group' : Value} {items : List Value} {y : Entity} :
    ofItems group' (items.map (Value.remap f)) = .ok y ↔
      ∃ x, ofItems group items = .ok x ∧ x.remap f = y := by
  have hroles : (∀ v ∈ items.map (Value.remap f), EntityPart.ofValue v ≠ .unknown) ↔
      ∀ v ∈ items, EntityPart.ofValue v ≠ .unknown := by
    simp [EntityPart.ofValue_remap, EntityPart.remap_eq_unknown_iff]
  have hbindings : (items.map (Value.remap f)).filterMap (fun v => (EntityPart.ofValue v).binding?) =
      (items.filterMap fun v => (EntityPart.ofValue v).binding?).map (Binding.remap f) := by
    simp [List.filterMap_map, List.map_filterMap, EntityPart.ofValue_remap]
  have hlabels : (items.map (Value.remap f)).filterMap (fun v => (EntityPart.ofValue v).labels?) =
      items.filterMap fun v => (EntityPart.ofValue v).labels? := by
    simp [List.filterMap_map, EntityPart.ofValue_remap]
  rw [ofItems_eq_ok_iff, hroles, hbindings, hlabels]
  constructor
  · rintro ⟨hknown, c?, names?, hc, hnames, rfl⟩
    obtain ⟨b?, hb, rfl⟩ := exists_toList_of_map hc
    exact ⟨_, ofItems_eq_ok_iff.2 ⟨hknown, b?, names?, hb, hnames, rfl⟩, remap_getD f b? names?⟩
  · rintro ⟨x, hx, rfl⟩
    obtain ⟨hknown, b?, names?, hb, hnames, rfl⟩ := ofItems_eq_ok_iff.1 hx
    refine ⟨hknown, b?.map (Binding.remap f), names?, ?_, hnames, remap_getD f b? names?⟩
    rw [hb, Option.toList_map]

theorem ofItems_remap (group group' : Value) (items : List Value) :
    (ofItems group' (items.map (Value.remap f))).toOption =
      (ofItems group items).toOption.map (remap f) := by
  refine Option.ext fun y => ?_
  rw [toOption_eq_some_iff, ofItems_remap_eq_ok_iff, Option.map_eq_some_iff]
  exact exists_congr fun x => and_congr_left fun _ => toOption_eq_some_iff.symm

/-- A changed group describes the changed entity, or is refused as it was. -/
theorem ofGroup_remap (group : Value) :
    (ofGroup (group.remap f)).toOption = (ofGroup group).toOption.map (remap f) := by
  match group with
  | .null =>
      rfl
  | .list [] =>
      rw [remap_list]
      exact ofItems_remap f (.list []) (.list []) []
  | .list [v] =>
      rw [remap_list]
      exact ofItems_remap f (.list [v]) (.list [v.remap f]) [v]
  | .list (v :: w :: rest) =>
      have hnames := labelNamesOf?_remap f (v :: w :: rest)
      rw [remap_list]
      simp only [List.map_cons, ofGroup] at hnames ⊢
      rw [hnames]
      cases labelNamesOf? (v :: w :: rest) with
      | some names =>
          rfl
      | none =>
          exact ofItems_remap f _ _ (v :: w :: rest)
  | .bool _ | .int _ | .float _ | .str _ | .map _ =>
      exact ofItems_remap f _ _ [_]

/-- Groups that a change makes equal are read as entities that it makes equal, or refused. -/
theorem ofGroup_agree_of_remap_eq
    {group group' : Value} (h : group.remap f = group'.remap f) :
    Agree (fun _ _ => True) (fun x x' => x.remap f = x'.remap f)
      (ofGroup group) (ofGroup group') := by
  refine .of_toOption_map_eq ?_
  rw [← ofGroup_remap, h, ofGroup_remap]

end Entity

namespace Pattern

theorem nodeOfGroup_agree_of_remap_eq
    {group group' : Value} (h : group.remap f = group'.remap f) (place : NodePlace) :
    Agree (fun _ _ => True) (fun x x' => x.remap f = x'.remap f)
      (nodeOfGroup place group) (nodeOfGroup place group') := by
  have hread := Entity.ofGroup_agree_of_remap_eq f h
  unfold nodeOfGroup
  generalize Entity.ofGroup group = r at hread
  generalize Entity.ofGroup group' = r' at hread
  cases hread with
  | error _ =>
      exact .error trivial
  | @ok x x' hsame =>
      simp only [Entity.distance?_eq_of_remap_eq f hsame]
      cases x'.distance? with
      | none =>
          exact .ok hsame
      | some text =>
          exact .error trivial

end Pattern

end Readings

end CypherBatch
