import CypherBatch.Renderer
import CypherBatch.Proofs.Outcomes

/-!
# What the renderers write

Each renderer reads its groups and then writes one text and one parameter map
from the entities that it has read.  Here the written statements get names of
their own, and each renderer an equation that has the reading on the outside and
the writing inside.
-/

namespace CypherBatch

open Outcome

namespace ComposeError

@[simp] theorem liftShape_ok {α : Type} (x : α) :
    liftShape (.ok x) = .ok x := by
  rfl

@[simp] theorem liftShape_error {α : Type} (e : ShapeError) :
    (liftShape (.error e) : Except ComposeError α) = .error (.shape e) := by
  rfl

theorem liftShape_eq_ok_iff {α : Type} {r : Except ShapeError α} {x : α} :
    liftShape r = .ok x ↔ r = .ok x := by
  cases r <;> simp

end ComposeError

namespace Pattern

theorem nodeOfGroup_eq_ok_iff
    {place : NodePlace} {group : Value} {x : Entity} :
    nodeOfGroup place group = .ok x ↔
      Entity.ofGroup group = .ok x ∧ x.distance? = none := by
  unfold nodeOfGroup
  cases Entity.ofGroup group with
  | error e =>
      simp
  | ok y =>
      cases hy : y.distance? with
      | none =>
          simp only [hy, Except.ok.injEq]
          constructor
          · rintro rfl
            exact ⟨rfl, hy⟩
          · exact fun h => h.1
      | some text =>
          simp only [hy, reduceCtorEq, Except.ok.injEq, false_iff, not_and]
          rintro rfl
          simp [hy]

theorem nodeOfGroup_of_error
    {place : NodePlace} {group : Value} {e : ShapeError}
    (h : Entity.ofGroup group = .error e) :
    nodeOfGroup place group = .error e := by
  simp [nodeOfGroup, h]

end Pattern

namespace Render

open ComposeError

/-- The statement that finds a node. -/
def foundNode (x : Entity) : Statement :=
  { query := "MATCH " ++ Pattern.node .node x ++ " RETURN u"
    params := Pattern.params [(.node, x)] }

/-- The statement that saves a node. -/
def savedNode (labels : List String) (fields : PropertyMap) : Statement :=
  { query := "MERGE (" ++ Pattern.mergeBody .node labels ++ ") " ++
      Pattern.upsert .node ++ " RETURN u"
    params := [(Facet.node.paramName, .map fields)] }

/-- The statement that saves a node, if its property map is legal. -/
def savedNode? (x : Entity) : Option Statement :=
  match x.props? with
  | some fields => if Value.isLegal (.map fields) then some (savedNode x.labels fields) else none
  | none => none

/-- The statement that finds edges. -/
def foundEdge (a e b : Entity) : Statement :=
  { query := "MATCH " ++ Pattern.node .source a ++ "-" ++ Pattern.edge e ++ "->" ++
      Pattern.node .target b ++ " RETURN e"
    params := Pattern.params [(.source, a), (.edge, e), (.target, b)] }

/-- The statement that saves an edge. -/
def savedEdge (labels : List String) (fields : PropertyMap) (a b : Entity) : Statement :=
  { query := "MATCH " ++ Pattern.node .source a ++ ", " ++ Pattern.node .target b ++
      " MERGE (a)-[" ++ Pattern.mergeBody .edge labels ++ "]->(b) " ++
      Pattern.upsert .edge ++ " RETURN e"
    params := Pattern.params [(.source, a), (.target, b)] ++
      [(Facet.edge.paramName, .map fields)] }

/-- The statement of a generic read of one node. -/
def foundFirst (clauses : ClauseSet) (a : Entity) : Statement :=
  { query := "MATCH " ++ Pattern.node .source a ++ " " ++ clauses.tail
    params := Pattern.params [(.source, a)] }

/-- The statement of a generic read of two nodes and an edge, or a path. -/
def foundGraph (clauses : ClauseSet) (a e b : Entity) : Statement :=
  { query := "MATCH " ++ Pattern.node .source a ++ graphBody clauses.path e b ++ " " ++ clauses.tail
    params := Pattern.params [(.source, a), (.edge, e), (.target, b)] }

theorem findNode_eq (args : List Value) :
    findNode args =
      (liftShape (Pattern.nodeOfGroup .only (nodeGroup args))).map foundNode := by
  rfl

theorem saveNode_eq (args : List Value) :
    saveNode args =
      (liftShape (Pattern.nodeOfGroup .only (nodeGroup args))).map savedNode? := by
  unfold saveNode
  cases liftShape (Pattern.nodeOfGroup .only (nodeGroup args)) with
  | error e =>
      rfl
  | ok x =>
      simp only [bind_eq, ok_bind, ok_map, savedNode?]
      cases x.props? with
      | none =>
          rfl
      | some fields =>
          by_cases hlegal : Value.isLegal (.map fields) = true
          · simp [hlegal, savedNode]
          · simp [hlegal]

theorem findEdgeOfGroups_eq (edge source target : Value) :
    findEdgeOfGroups edge source target =
      (liftShape (Pattern.nodeOfGroup .source source)).bind fun a =>
        (liftShape (Entity.ofGroup edge)).bind fun e =>
          (liftShape (Pattern.nodeOfGroup .target target)).map fun b => foundEdge a e b := by
  rfl

/-- An edge is saved from three groups. -/
theorem exists_groups_of_saveEdge
    {args : List Value} {r : Option Statement} (h : saveEdge args = .ok r) :
    ∃ edge source target, args = [edge, source, target] ∧
      saveEdgeOfGroups edge source target = .ok r := by
  match args with
  | [edge, source, target] =>
      exact ⟨edge, source, target, rfl, h⟩
  | [] | [_] | [_, _] | _ :: _ :: _ :: _ :: _ =>
      cases h

/-- An edge is saved if it has a label, no distance, and a legal property map. -/
theorem saveEdgeOfGroups_eq (edge source target : Value) :
    saveEdgeOfGroups edge source target =
      (liftShape (Entity.ofGroup edge)).bind fun e =>
        if e.labels.isEmpty then .error (.label .newEdge)
        else
          match e.binding with
          | .distance text => .error (.shape (.newEdgeDistance text))
          | .free => .ok none
          | .props fields =>
              if Value.isLegal (.map fields) then
                (liftShape (Pattern.nodeOfGroup .source source)).bind fun a =>
                  (liftShape (Pattern.nodeOfGroup .target target)).map fun b =>
                    some (savedEdge e.labels fields a b)
              else .ok none := by
  unfold saveEdgeOfGroups
  cases liftShape (Entity.ofGroup edge) with
  | error e =>
      rfl
  | ok e =>
      simp only [bind_eq, ok_bind]
      by_cases hlabels : e.labels.isEmpty = true
      · simp only [hlabels, if_true]
        rfl
      · simp only [hlabels]
        cases e.binding with
        | free =>
            rfl
        | distance text =>
            rfl
        | props fields =>
            by_cases hlegal : Value.isLegal (.map fields) = true
            · simp only [hlegal, if_true]
              rfl
            · simp only [hlegal]
              rfl

/-- An edge is saved exactly when its groups are read and its property map is legal. -/
theorem saveEdgeOfGroups_eq_some_iff
    {edge source target : Value} {s : Statement} :
    saveEdgeOfGroups edge source target = .ok (some s) ↔
      ∃ labels fields a b, Entity.ofGroup edge = .ok ⟨.props fields, labels⟩ ∧ labels ≠ [] ∧
        Value.isLegal (.map fields) = true ∧ Pattern.nodeOfGroup .source source = .ok a ∧
        Pattern.nodeOfGroup .target target = .ok b ∧ s = savedEdge labels fields a b := by
  rw [saveEdgeOfGroups_eq, bind_eq_ok_iff]
  constructor
  · rintro ⟨⟨binding, labels⟩, he, h⟩
    rw [liftShape_eq_ok_iff] at he
    by_cases hlabels : labels.isEmpty = true
    · simp [hlabels] at h
    simp only [hlabels] at h
    cases binding with
    | free =>
        cases h
    | distance text =>
        cases h
    | props fields =>
        by_cases hlegal : Value.isLegal (.map fields) = true
        · simp only [hlegal, if_true] at h
          obtain ⟨a, ha, h⟩ := bind_eq_ok_iff.1 h
          obtain ⟨b, hb, h⟩ := map_eq_ok_iff.1 h
          rw [liftShape_eq_ok_iff] at ha hb
          exact ⟨labels, fields, a, b, he, by simpa using hlabels, hlegal, ha, hb,
            (Option.some.inj h).symm⟩
        · simp [hlegal] at h
  · rintro ⟨labels, fields, a, b, he, hlabels, hlegal, ha, hb, rfl⟩
    exact ⟨_, liftShape_eq_ok_iff.2 he, by simp [hlabels, hlegal, ha, hb]⟩

theorem findEdgeOfGroups_eq_ok_iff
    {edge source target : Value} {s : Statement} :
    findEdgeOfGroups edge source target = .ok s ↔
      ∃ a e b, Pattern.nodeOfGroup .source source = .ok a ∧ Entity.ofGroup edge = .ok e ∧
        Pattern.nodeOfGroup .target target = .ok b ∧ s = foundEdge a e b := by
  rw [findEdgeOfGroups_eq, bind_eq_ok_iff]
  constructor
  · rintro ⟨a, ha, h⟩
    obtain ⟨e, he, h⟩ := bind_eq_ok_iff.1 h
    obtain ⟨b, hb, rfl⟩ := map_eq_ok_iff.1 h
    rw [liftShape_eq_ok_iff] at ha he hb
    exact ⟨a, e, b, ha, he, hb, rfl⟩
  · rintro ⟨a, e, b, ha, he, hb, rfl⟩
    exact ⟨a, liftShape_eq_ok_iff.2 ha, by simp [he, hb]⟩

/-- Edges are found from up to three groups, of which the missing ones are null. -/
theorem findEdge_of_length_le {args : List Value} (h : args.length ≤ 3) :
    findEdge args =
      findEdgeOfGroups (args.getD 0 .null) (args.getD 1 .null) (args.getD 2 .null) := by
  match args, h with
  | [], _ | [_], _ | [_, _], _ | [_, _, _], _ =>
      rfl

theorem findEdge_of_length_gt {args : List Value} (h : 3 < args.length) :
    findEdge args = .error (.groupCount args.length) := by
  match args, h with
  | _ :: _ :: _ :: _ :: _, _ =>
      rfl

theorem findEdge_eq_ok_iff {args : List Value} {s : Statement} :
    findEdge args = .ok s ↔
      args.length ≤ 3 ∧
        ∃ a e b, Pattern.nodeOfGroup .source (args.getD 1 .null) = .ok a ∧
          Entity.ofGroup (args.getD 0 .null) = .ok e ∧
          Pattern.nodeOfGroup .target (args.getD 2 .null) = .ok b ∧ s = foundEdge a e b := by
  by_cases hlength : args.length ≤ 3
  · rw [findEdge_of_length_le hlength, findEdgeOfGroups_eq_ok_iff, and_iff_right hlength]
  · rw [findEdge_of_length_gt (Nat.lt_of_not_le hlength)]
    exact iff_of_false (by simp) fun h => hlength h.1

/-- A generic read without an edge finds one node; it cannot ask for a path. -/
theorem findGraphOfGroups_eq (clauses : ClauseSet) (first edge second : Value) :
    findGraphOfGroups clauses first edge second =
      (liftShape (Pattern.nodeOfGroup .first first)).bind fun a =>
        if edge = .null then
          match clauses.path with
          | some path => .error (.shape (.pathWithoutEdge path))
          | none => .ok (foundFirst clauses a)
        else
          (liftShape (Entity.ofGroup edge)).bind fun e =>
            (liftShape (Pattern.nodeOfGroup .second second)).map fun b =>
              foundGraph clauses a (if clauses.path.isSome then pathEdge e else e) b := by
  unfold findGraphOfGroups
  cases edge with
  | null =>
      cases hpath : clauses.path <;> rfl
  | bool | int | float | str | list | map =>
      rfl

/-- A generic read finds one node, or an edge of which a path keeps no properties. -/
theorem findGraphOfGroups_eq_ok_iff
    {clauses : ClauseSet} {first edge second : Value} {s : Statement} :
    findGraphOfGroups clauses first edge second = .ok s ↔
      ∃ a, Pattern.nodeOfGroup .first first = .ok a ∧
        ((edge = .null ∧ clauses.path = none ∧ s = foundFirst clauses a) ∨
          (edge ≠ .null ∧ ∃ e b, Entity.ofGroup edge = .ok e ∧
            Pattern.nodeOfGroup .second second = .ok b ∧
            s = foundGraph clauses a (if clauses.path.isSome then pathEdge e else e) b)) := by
  rw [findGraphOfGroups_eq, bind_eq_ok_iff]
  refine exists_congr fun a => ?_
  rw [liftShape_eq_ok_iff]
  refine and_congr_right fun _ => ?_
  by_cases hedge : edge = .null
  · cases hpath : clauses.path <;> simp [hedge, eq_comm]
  · simp only [hedge, if_false, false_and, false_or, ne_eq, not_false_eq_true, true_and,
      bind_eq_ok_iff, map_eq_ok_iff, liftShape_eq_ok_iff]
    constructor
    · rintro ⟨e, he, b, hb, rfl⟩
      exact ⟨e, b, he, hb, rfl⟩
    · rintro ⟨e, b, he, hb, rfl⟩
      exact ⟨e, he, b, hb, rfl⟩

/-- A generic read takes nothing but clauses and up to three groups. -/
theorem findGraph_eq (args : List Value) :
    findGraph args =
      if (args.filter fun arg => !isGroupOrClause arg).isEmpty then
        if 3 < (groupsOf args).length then .error (.shape (.tooManyGroups (groupsOf args).length))
        else
          (liftShape (ClauseSet.ofFragments (clausesOf args))).bind fun clauses =>
            findGraphOfGroups clauses ((groupsOf args).getD 0 .null)
              ((groupsOf args).getD 1 .null) ((groupsOf args).getD 2 .null)
      else .error (.shape (.notGroups (args.filter fun arg => !isGroupOrClause arg))) := by
  unfold findGraph
  by_cases hbad : (args.filter fun arg => !isGroupOrClause arg).isEmpty = true
  · by_cases hmany : 3 < (groupsOf args).length
    · simp only [hbad, hmany, if_true]
      rfl
    · simp only [hbad, hmany, if_true, if_false]
      rfl
  · simp only [hbad]
    rfl

/-- A generic read reads its clauses and up to three groups. -/
theorem findGraph_eq_ok_iff {args : List Value} {s : Statement} :
    findGraph args = .ok s ↔
      (∀ arg ∈ args, isGroupOrClause arg = true) ∧ (groupsOf args).length ≤ 3 ∧
        ∃ clauses, ClauseSet.ofFragments (clausesOf args) = .ok clauses ∧
          findGraphOfGroups clauses ((groupsOf args).getD 0 .null) ((groupsOf args).getD 1 .null)
            ((groupsOf args).getD 2 .null) = .ok s := by
  have hbad : (args.filter fun arg => !isGroupOrClause arg).isEmpty = true ↔
      ∀ arg ∈ args, isGroupOrClause arg = true := by
    simp
  rw [findGraph_eq, ← hbad]
  by_cases hempty : (args.filter fun arg => !isGroupOrClause arg).isEmpty = true
  · rw [if_pos hempty]
    by_cases hcount : 3 < (groupsOf args).length
    · rw [if_pos hcount]
      exact iff_of_false (by simp) fun h => absurd h.2.1 (Nat.not_le_of_lt hcount)
    · rw [if_neg hcount, bind_eq_ok_iff]
      simp only [liftShape_eq_ok_iff, hempty, Nat.le_of_not_lt hcount, true_and]
  · rw [if_neg hempty]
    exact iff_of_false (by simp) fun h => hempty h.1

/-- What is read before the rest fails for its shape if the rest does. -/
theorem eq_shape_of_bind
    {α β : Type} {r : Except ShapeError α} {f : α → Except ComposeError β}
    (hf : ∀ x e, f x = .error e → ∃ cause, e = .shape cause) {e : ComposeError}
    (h : (liftShape r).bind f = .error e) :
    ∃ cause, e = .shape cause := by
  cases r with
  | ok x =>
      exact hf x e h
  | error cause =>
      exact ⟨cause, (Except.error.inj h).symm⟩

theorem eq_shape_of_map
    {α β : Type} {r : Except ShapeError α} {f : α → β} {e : ComposeError}
    (h : (liftShape r).map f = .error e) :
    ∃ cause, e = .shape cause := by
  cases r with
  | ok x =>
      cases h
  | error cause =>
      exact ⟨cause, (Except.error.inj h).symm⟩

/-- An edge is refused for its label exactly if its group can be read and gives none. -/
theorem saveEdgeOfGroups_eq_label_iff {edge source target : Value} {cause : LabelError} :
    saveEdgeOfGroups edge source target = .error (.label cause) ↔
      cause = .newEdge ∧ ∃ e, Entity.ofGroup edge = .ok e ∧ e.labels = [] := by
  rw [saveEdgeOfGroups_eq]
  cases Entity.ofGroup edge with
  | error shape =>
      simp
  | ok e =>
      rw [liftShape_ok, ok_bind]
      by_cases hlabels : e.labels = []
      · simp [hlabels, eq_comm]
      · rw [if_neg (by simpa using hlabels)]
        refine iff_of_false (fun h => ?_) (by simp [hlabels])
        cases hbinding : e.binding with
        | free | distance =>
            rw [hbinding] at h
            cases h
        | props fields =>
            -- With a label there is, only the shapes of the nodes are left to be refused.
            simp only [hbinding] at h
            split at h
            · obtain ⟨shape, hshape⟩ :=
                eq_shape_of_bind (fun a e h => eq_shape_of_map h) h
              cases hshape
            · cases h

theorem findGraphOfGroups_eq_error
    {clauses : ClauseSet} {first edge second : Value} {e : ComposeError}
    (h : findGraphOfGroups clauses first edge second = .error e) :
    ∃ cause, e = .shape cause := by
  rw [findGraphOfGroups_eq] at h
  refine eq_shape_of_bind (fun a e h => ?_) h
  by_cases hedge : edge = .null
  · rw [if_pos hedge] at h
    cases hpath : clauses.path with
    | none =>
        rw [hpath] at h
        cases h
    | some path =>
        rw [hpath] at h
        exact ⟨_, (Except.error.inj h).symm⟩
  · rw [if_neg hedge] at h
    exact eq_shape_of_bind (fun given e h => eq_shape_of_map h) h

/-- Whatever is wrong with a generic read is a matter of shape. -/
theorem findGraph_eq_error {args : List Value} {e : ComposeError} (h : findGraph args = .error e) :
    ∃ cause, e = .shape cause := by
  rw [findGraph_eq] at h
  split_ifs at h with hbad hcount
  · exact ⟨_, (Except.error.inj h).symm⟩
  · exact eq_shape_of_bind (fun clauses e h => findGraphOfGroups_eq_error h) h
  · exact ⟨_, (Except.error.inj h).symm⟩

end Render
end CypherBatch
