import CypherBatch.Proofs.Constraints
import CypherBatch.Proofs.TypeExpansion

/-!
# Edges without a type

An edge that is created needs a type.  Whether it has one is asked when its group is read:
a group without labels is refused.  But the labels that stand in the text are not all that
the group gives, for an empty one is left out.

So the question is answered as the text answers it exactly if the group gives no label at
all, or one that is not empty.  With empty labels only, an edge without a type is created.
-/

namespace CypherBatch
namespace Render

open Outcome ComposeError EdgeType

/-- Is there a type in the bracket of the edge that the statement merges? -/
def IsTyped (source target : Value) (s : Statement) : Prop :=
  ∃ a b type rest, Pattern.nodeOfGroup .source source = .ok a ∧
    Pattern.nodeOfGroup .target target = .ok b ∧ type ≠ "" ∧
    s.query = edgeLead a b ++ "[e:" ++ Name.quote type ++ rest

/-- An edge without a type is refused for that, and none is created. -/
structure RefusesUntyped (edge source target : Value) : Prop where
  refuses : IsReadable .edge edge → (∀ label ∈ edge.givenLabels, label = "") →
    saveEdge [edge, source, target] = .error (.label .newEdge)
  types : ∀ s, saveEdge [edge, source, target] = .ok (some s) → IsTyped source target s

section Texts

variable {a b : Entity} {fields : PropertyMap} {types : List String}

/-- The first label that is not empty stands behind the first colon. -/
theorem exists_labelText_eq (h : ∃ type ∈ types, type ≠ "") :
    ∃ type rest, type ≠ "" ∧ Name.labelText types = ":" ++ Name.quote type ++ rest := by
  induction types with
  | nil =>
      simp at h
  | cons first types ih =>
      by_cases hfirst : first = ""
      · have hskip : Name.labelText (first :: types) = Name.labelText types := by
          simp [Name.labelText, hfirst]
        rw [hskip]
        exact ih (by simpa [hfirst] using h)
      · exact ⟨first, Name.labelText types, hfirst, Name.labelText_cons hfirst types⟩

/-- A colon behind the variable of the edge stands in front of a type. -/
theorem exists_ne_of_query_savedEdge {rest : String}
    (h : (savedEdge types fields a b).query = edgeLead a b ++ "[e:" ++ rest) :
    ∃ type ∈ types, type ≠ "" := by
  by_contra hnone
  have hempty : Name.labelText types = "" := by
    refine (Name.labelText_eq_empty_iff types).2 fun type htype => ?_
    by_contra hne
    exact hnone ⟨type, htype, hne⟩
  rw [query_savedEdge, hempty] at h
  have hchars := congrArg String.toList h
  simp [toList_edgeTail] at hchars

end Texts

section Refusals

variable {edge source target : Value}

/-- A group that cannot be read is refused first. -/
theorem exists_shape_of_not_isReadable (h : ¬ IsReadable .edge edge) :
    ∃ cause, saveEdge [edge, source, target] = .error (.shape cause) := by
  rw [isReadable_edge_iff, not_exists] at h
  cases he : Entity.ofGroup edge with
  | ok e =>
      exact absurd he (h e)
  | error cause =>
      refine ⟨cause, ?_⟩
      rw [saveEdge, saveEdgeOfGroups_eq, he, liftShape_error, error_bind]

/-- The type is found missing exactly if the group can be read and gives no label at all. -/
theorem saveEdge_eq_newEdge_iff (h : IsReadable .edge edge) :
    saveEdge [edge, source, target] = .error (.label .newEdge) ↔ edge.givenLabels = [] := by
  obtain ⟨e, he⟩ := isReadable_edge_iff.1 h
  rw [saveEdge, saveEdgeOfGroups_eq_label_iff, ← Entity.labels_of_ofGroup he]
  simp [he]

/-- A created edge is typed exactly if its group gives a label that is not empty. -/
theorem isTyped_iff {s : Statement} (h : saveEdge [edge, source, target] = .ok (some s)) :
    IsTyped source target s ↔ ∃ label ∈ edge.givenLabels, label ≠ "" := by
  obtain ⟨labels, fields, a, b, he, -, -, ha, hb, rfl⟩ := saveEdgeOfGroups_eq_some_iff.1 h
  rw [← Entity.labels_of_ofGroup he]
  constructor
  · rintro ⟨a', b', type, rest, ha', hb', -, htext⟩
    obtain rfl := Except.ok.inj (ha.symm.trans ha')
    obtain rfl := Except.ok.inj (hb.symm.trans hb')
    rw [String.append_assoc] at htext
    exact exists_ne_of_query_savedEdge htext
  · intro hlabels
    obtain ⟨type, rest, hne, htext⟩ := exists_labelText_eq hlabels
    refine ⟨a, b, type, rest ++ edgeTail, ha, hb, hne, ?_⟩
    have hbracket : "[e:" = "[e" ++ ":" := rfl
    rw [query_savedEdge, htext, hbracket]
    simp only [String.append_assoc]

end Refusals

/-- Edges without a type are refused unless empty labels stand in for one.

A group that cannot be read is refused for its shape.  Any other group of an edge is refused
for want of a type, with whatever else is given, and every edge that is created has a type,
exactly if the group gives no label at all or one that is not empty.  What is created has a
type just in the second case.
-/
theorem refusesUntyped_iff (edge source target : Value) :
    (¬ IsReadable .edge edge →
      ∃ cause, saveEdge [edge, source, target] = .error (.shape cause)) ∧
    (RefusesUntyped edge source target ↔
      (IsReadable .edge edge →
        edge.givenLabels = [] ∨ ∃ label ∈ edge.givenLabels, label ≠ "")) ∧
    ∀ s, saveEdge [edge, source, target] = .ok (some s) →
      (IsTyped source target s ↔ ∃ label ∈ edge.givenLabels, label ≠ "") := by
  refine ⟨exists_shape_of_not_isReadable, ?_, fun s => isTyped_iff⟩
  constructor
  · intro hrefuses hread
    by_cases hempty : ∀ label ∈ edge.givenLabels, label = ""
    · exact Or.inl ((saveEdge_eq_newEdge_iff hread).1 (hrefuses.refuses hread hempty))
    · exact Or.inr (by simpa using hempty)
  · intro hlabels
    refine ⟨fun hread hempty => ?_, fun s hs => ?_⟩
    · rcases hlabels hread with hnone | ⟨label, hlabel, hne⟩
      · exact (saveEdge_eq_newEdge_iff hread).2 hnone
      · exact absurd (hempty label hlabel) hne
    · obtain ⟨_, _, _, _, he, -⟩ := saveEdgeOfGroups_eq_some_iff.1 hs
      have hread : IsReadable .edge edge := isReadable_edge_iff.2 ⟨_, he⟩
      rcases hlabels hread with hnone | hlabel
      · rw [(saveEdge_eq_newEdge_iff hread).2 hnone] at hs
        cases hs
      · exact (isTyped_iff hs).2 hlabel

/-- A legal edge whose only label is empty. -/
def blankEdge : Value :=
  .list [.map requiredOnly, .str ""]

/-- The statement that creates it has no type in the bracket of the edge. -/
def blankStatement : Statement :=
  { query := "MATCH (a:alpha), (b:beta) MERGE (a)-[e \x7bhash: \x7bpropE\x7d.hash\x7d]->(b) " ++
      Pattern.upsert .edge ++ " RETURN e"
    params := [("propE", .map requiredOnly)] }

/-- It is created, although it has no type. -/
theorem blank_label_is_created :
    saveEdge [blankEdge, .list [.str "alpha"], .list [.str "beta"]] = .ok (some blankStatement) ∧
    ¬ RefusesUntyped blankEdge (.list [.str "alpha"]) (.list [.str "beta"]) := by
  have hsaved : saveEdge [blankEdge, .list [.str "alpha"], .list [.str "beta"]] =
      .ok (some blankStatement) := by
    decide +kernel
  refine ⟨hsaved, fun hrefuses => ?_⟩
  have hread : IsReadable .edge blankEdge := isReadable_edge_iff.2 ⟨_, rfl⟩
  have hmissing := hrefuses.refuses hread (by decide +kernel)
  rw [hsaved] at hmissing
  cases hmissing

end Render
end CypherBatch
