import CypherBatch.Proofs.Batches
import CypherBatch.Proofs.Renderers

/-!
# How a batch fails

The caller of a batch is told what is wrong with the shape of its arguments or with
the labels of an edge.  One failure tells neither: a unit with more or fewer groups
than its statement takes.  The statements of nodes and the generic read take any
number of arguments and look into them, the two statements of edges do not.

`compose_eq_groupCount_iff` says when a batch fails so: exactly at the first unit
that is not composed, if that unit has a number of groups its statement does not
take.  Every other failure is one that the caller is told.
-/

namespace CypherBatch

open Outcome

namespace ComposeError

variable {α β : Type}

/-- Does an outcome that is a failure say what is wrong with a shape or a label? -/
def Told (x : Except ComposeError α) : Prop :=
  ∀ n, x ≠ .error (.groupCount n)

theorem told_ok (a : α) : Told (.ok a) := by
  intro n h
  cases h

theorem told_shape (cause : ShapeError) : Told (.error (.shape cause) : Except ComposeError α) := by
  intro n h
  cases h

theorem told_label (cause : LabelError) : Told (.error (.label cause) : Except ComposeError α) := by
  intro n h
  cases h

theorem told_liftShape (r : Except ShapeError α) : Told (liftShape r) := by
  cases r with
  | ok a =>
      exact told_ok a
  | error cause =>
      exact told_shape cause

theorem Told.bind
    {x : Except ComposeError α} {f : α → Except ComposeError β} (hx : Told x)
    (hf : ∀ a, Told (f a)) :
    Told (x.bind f) := by
  cases x with
  | ok a =>
      exact hf a
  | error e =>
      intro n h
      exact hx n (congrArg Except.error (Except.error.inj h))

theorem Told.map {x : Except ComposeError α} (hx : Told x) (f : α → β) : Told (x.map f) := by
  cases x with
  | ok a =>
      exact told_ok (f a)
  | error e =>
      intro n h
      exact hx n (congrArg Except.error (Except.error.inj h))

/-- An outcome is a result, a failure that is told, or a count of groups. -/
theorem told_iff {x : Except ComposeError α} :
    Told x ↔ (∃ a, x = .ok a) ∨ (∃ cause, x = .error (.shape cause)) ∨
      ∃ cause, x = .error (.label cause) := by
  constructor
  · intro h
    match x with
    | .ok a =>
        exact Or.inl ⟨a, rfl⟩
    | .error (.shape cause) =>
        exact Or.inr (Or.inl ⟨cause, rfl⟩)
    | .error (.label cause) =>
        exact Or.inr (Or.inr ⟨cause, rfl⟩)
    | .error (.groupCount n) =>
        exact absurd rfl (h n)
  · rintro (⟨a, rfl⟩ | ⟨cause, rfl⟩ | ⟨cause, rfl⟩)
    · exact told_ok a
    · exact told_shape cause
    · exact told_label cause

end ComposeError

namespace Render

open ComposeError

theorem told_saveNode (args : List Value) : Told (saveNode args) := by
  rw [saveNode_eq]
  exact (told_liftShape _).map _

theorem told_findNode (args : List Value) : Told (findNode args) := by
  rw [findNode_eq]
  exact (told_liftShape _).map _

theorem told_saveEdgeOfGroups (edge source target : Value) :
    Told (saveEdgeOfGroups edge source target) := by
  rw [saveEdgeOfGroups_eq]
  refine (told_liftShape _).bind fun e => ?_
  by_cases hlabels : e.labels.isEmpty = true
  · rw [if_pos hlabels]
    exact told_label _
  · rw [if_neg hlabels]
    cases e.binding with
    | free =>
        exact told_ok none
    | distance text =>
        exact told_shape _
    | props fields =>
        by_cases hlegal : Value.isLegal (.map fields) = true
        · simp only [hlegal, if_true]
          exact (told_liftShape _).bind fun a => (told_liftShape _).map _
        · simp only [hlegal]
          exact told_ok none

theorem told_findEdgeOfGroups (edge source target : Value) :
    Told (findEdgeOfGroups edge source target) := by
  rw [findEdgeOfGroups_eq]
  exact (told_liftShape _).bind fun a => (told_liftShape _).bind fun e =>
    (told_liftShape _).map _

theorem told_findGraph (args : List Value) : Told (findGraph args) := by
  intro n h
  obtain ⟨cause, hcause⟩ := findGraph_eq_error h
  cases hcause

/-- An edge is saved from three groups, and any other number is counted. -/
theorem saveEdge_eq_groupCount_iff {args : List Value} {n : Nat} :
    saveEdge args = .error (.groupCount n) ↔ args.length ≠ 3 ∧ n = args.length := by
  match args with
  | [edge, source, target] =>
      exact iff_of_false (told_saveEdgeOfGroups edge source target n) fun h => h.1 rfl
  | [] | [_] | [_, _] =>
      simp [saveEdge, eq_comm]
  | _ :: _ :: _ :: _ :: rest =>
      simp [saveEdge, eq_comm]

/-- Edges are found from up to three groups, and more of them are counted. -/
theorem findEdge_eq_groupCount_iff {args : List Value} {n : Nat} :
    findEdge args = .error (.groupCount n) ↔ 3 < args.length ∧ n = args.length := by
  by_cases hlength : args.length ≤ 3
  · rw [findEdge_of_length_le hlength]
    exact iff_of_false (told_findEdgeOfGroups _ _ _ n) fun h => absurd hlength (by omega)
  · rw [findEdge_of_length_gt (Nat.lt_of_not_le hlength)]
    simp [Nat.lt_of_not_le hlength, eq_comm]

end Render

namespace EdgeType

theorem told_expand (mode : Mode) (s : Statement) : ComposeError.Told (expand mode s) := by
  unfold expand
  cases mode with
  | strict =>
      cases Token.find? s.query.toList with
      | none =>
          exact ComposeError.told_label _
      | some token =>
          exact ComposeError.told_ok _
  | relaxed =>
      cases Token.find? s.query.toList with
      | none =>
          exact ComposeError.told_ok _
      | some token =>
          by_cases hone : token.labels.length = 1
          · simp only [hone, if_true]
            exact ComposeError.told_ok _
          · simp only [hone, if_false]
            exact ComposeError.told_ok _

end EdgeType

namespace Operation

open ComposeError Render

/-- Does the statement of the operation take so many groups or arguments? -/
def takes : Operation → Nat → Bool
  | addEdge, n => n = 3
  | getEdge, n => n ≤ 3
  | addNode, _ | getNode, _ | get, _ => true

/-- Is the outcome of a call a batch, or an error of shape or label? -/
def Reports (op : Operation) (args : List Value) : Prop :=
  (∃ batch, op.compose args = .ok batch) ∨
    (∃ cause, op.compose args = .error (.shape cause)) ∨
    ∃ cause, op.compose args = .error (.label cause)

section Failures

variable {op : Operation} {args unit : List Value} {n : Nat}

theorem told_expanded (mode : EdgeType.Mode) (rendered : Option Statement) :
    Told (expanded mode rendered) := by
  cases rendered with
  | none =>
      exact told_ok []
  | some s =>
      exact EdgeType.told_expand mode s

/-- What follows a computation changes nothing about the groups that it counts. -/
theorem bind_eq_groupCount_iff
    {α β : Type} {x : Except ComposeError α} {f : α → Except ComposeError β}
    (hf : ∀ a, Told (f a)) :
    x.bind f = .error (.groupCount n) ↔ x = .error (.groupCount n) := by
  cases x with
  | ok a =>
      exact iff_of_false (hf a n) (by simp)
  | error e =>
      simp

/-- A unit alone fails for its number of groups exactly when its statement does not take it. -/
theorem ofUnit_eq_groupCount_iff :
    op.ofUnit unit = .error (.groupCount n) ↔ op.takes unit.length = false ∧ n = unit.length := by
  cases op with
  | addNode =>
      exact iff_of_false (((told_saveNode unit).map _) n) (by simp [takes])
  | getNode =>
      exact iff_of_false (((told_findNode unit).map _) n) (by simp [takes])
  | addEdge =>
      rw [ofUnit, bind_eq_groupCount_iff (told_expanded .strict), saveEdge_eq_groupCount_iff]
      simp [takes]
  | getEdge =>
      rw [ofUnit, bind_eq_groupCount_iff (EdgeType.told_expand .relaxed),
        findEdge_eq_groupCount_iff]
      simp [takes]
  | get =>
      have htold : Told (get.ofUnit unit) :=
        (told_findGraph unit).bind (EdgeType.told_expand .relaxed)
      exact iff_of_false (htold n) (by simp [takes])

theorem compose_eq_error_iff {e : ComposeError} :
    op.compose args = .error e ↔ op.statements args = .error e := by
  rw [statements]
  cases op.compose args <;> simp

/--
A batch fails for a number of groups exactly when its first unit that is not
composed has a number of groups that its statement does not take.
-/
theorem compose_eq_groupCount_iff :
    op.compose args = .error (.groupCount n) ↔
      ∃ before unit after, Units.resolve op.unitRank args = .ok (before ++ unit :: after) ∧
        (∀ earlier ∈ before, ∃ ss, op.ofUnit earlier = .ok ss) ∧
        op.takes unit.length = false ∧ n = unit.length := by
  rw [compose_eq_error_iff, statements_eq]
  cases hresolve : Units.resolve op.unitRank args with
  | error cause =>
      simp
  | ok units =>
      have hunits : op.ofUnits units = .error (.groupCount n) ↔
          units.mapM op.ofUnit = .error (.groupCount n) := by
        rw [ofUnits]
        cases units.mapM op.ofUnit <;> simp
      simp only [liftShape_ok, ok_bind, hunits, mapM_eq_error_iff, ofUnit_eq_groupCount_iff,
        Except.ok.injEq]

end Failures

/-- Calls for nodes and generic reads report every failure. -/
theorem reports_of_any_count (args : List Value) :
    addNode.Reports args ∧ getNode.Reports args ∧ get.Reports args := by
  have hreports (op : Operation) (h : ∀ n, op.takes n = true) : op.Reports args := by
    refine told_iff.1 fun n hcount => ?_
    obtain ⟨-, unit, -, -, -, htakes, -⟩ := compose_eq_groupCount_iff.1 hcount
    rw [h] at htakes
    cases htakes
  exact ⟨hreports addNode fun _ => rfl, hreports getNode fun _ => rfl, hreports get fun _ => rfl⟩

/--
A call reports its failure exactly when every unit that is reached, that is, with only
units that are composed in front of it, has a number of groups that its statement takes.
-/
theorem reports_iff (op : Operation) (args : List Value) :
    op.Reports args ↔
      ∀ before unit after, Units.resolve op.unitRank args = .ok (before ++ unit :: after) →
        (∀ earlier ∈ before, ∃ ss, op.ofUnit earlier = .ok ss) →
        op.takes unit.length = true := by
  constructor
  · intro hreports before unit after hresolve hbefore
    by_contra hnot
    have hcount := compose_eq_groupCount_iff.2
      ⟨before, unit, after, hresolve, hbefore, Bool.eq_false_of_not_eq_true hnot, rfl⟩
    exact told_iff.2 hreports _ hcount
  · intro h
    refine told_iff.1 fun n hcount => ?_
    obtain ⟨before, unit, after, hresolve, hbefore, htakes, -⟩ :=
      compose_eq_groupCount_iff.1 hcount
    rw [h before unit after hresolve hbefore] at htakes
    cases htakes

/-- An edge to be saved without a target is counted, and the caller is not told of a shape. -/
theorem missing_target_is_counted :
    ¬ addEdge.Reports [.list [.map [("k", .int 1)], .str "next"], .list [.str "alpha"]] := by
  have hcount : addEdge.compose
      [.list [.map [("k", .int 1)], .str "next"], .list [.str "alpha"]] =
        .error (.groupCount 2) := by
    decide +kernel
  exact fun hreports => told_iff.2 hreports 2 hcount

end Operation
end CypherBatch
