import CypherBatch.Proofs.Clauses
import CypherBatch.Proofs.Renderers
import CypherBatch.Proofs.Trimming

/-!
# Clauses in any order

Fragments are read as clauses exactly when each of them plays a role and the texts of a
role are at most one, exactly one for the role that ends the statement.  Nothing of this
depends on the order of the fragments, nor on their places among the groups of a generic
read.

The text of a clause is trimmed.  It is a fragment of the same role again, and it is trimmed
already, so the clauses of a read are read again from their own texts.
-/

namespace CypherBatch

open Outcome

namespace ClauseDraft

/-- Fragments that are added all play a role. -/
theorem role_of_mem_of_foldlM
    {fragments : List Value} {draft final : ClauseDraft}
    (h : fragments.foldlM add draft = .ok final) :
    ∀ v ∈ fragments, ∃ role, ClauseRole.ofValue? v = some role := by
  induction fragments generalizing draft with
  | nil =>
      simp
  | cons v rest ih =>
      rw [List.foldlM_cons, bind_eq] at h
      obtain ⟨next, hv, hrest⟩ := bind_eq_ok_iff.1 h
      obtain ⟨text, role, rfl, hrole, -, -⟩ := add_eq_ok_iff.1 hv
      exact List.forall_mem_cons.2 ⟨⟨role, hrole⟩, ih hrest⟩

/-- Fragments that play roles are added if no role is filled twice. -/
theorem exists_foldlM_eq_ok
    {fragments : List Value} {draft : ClauseDraft}
    (hroles : ∀ v ∈ fragments, ∃ role, ClauseRole.ofValue? v = some role)
    (honce : ∀ role, ((draft.get? role).toList ++
      fragments.filterMap (ClauseRole.text? role)).length ≤ 1) :
    ∃ final, fragments.foldlM add draft = .ok final := by
  induction fragments generalizing draft with
  | nil =>
      exact ⟨draft, rfl⟩
  | cons v rest ih =>
      obtain ⟨⟨role, hrole⟩, hrest⟩ := List.forall_mem_cons.1 hroles
      cases v with
      | null | bool | int | float | list | map =>
          cases hrole
      | str text =>
          have hfree : draft.get? role = none := by
            have hlength := honce role
            rw [List.filterMap_cons_some (ClauseRole.text?_str hrole), List.length_append,
              List.length_cons] at hlength
            exact Option.toList_eq_nil_iff.1 (List.length_eq_zero_iff.1 (by omega))
          have hadd : add draft (.str text) = .ok (draft.put (Text.trim text) role) :=
            add_eq_ok_iff.2 ⟨text, role, rfl, hrole, hfree, rfl⟩
          rw [List.foldlM_cons, hadd]
          refine ih hrest fun other => ?_
          rw [texts_put hrole hfree]
          exact honce other

end ClauseDraft

namespace ClauseSet

/-- Clauses are known by their texts. -/
theorem eq_of_get?_eq
    {clauses clauses' : ClauseSet} (h : ∀ role, clauses.get? role = clauses'.get? role) :
    clauses = clauses' := by
  obtain ⟨terminal, filter, mutation, path⟩ := clauses
  obtain ⟨terminal', filter', mutation', path'⟩ := clauses'
  have hterminal : some terminal = some terminal' := h .terminal
  obtain rfl := Option.some.inj hterminal
  obtain rfl : filter = filter' := h .filter
  obtain rfl : mutation = mutation' := h .mutation
  obtain rfl : path = path' := h .path
  rfl

/-- Fragments are read exactly when all play roles, and each role has the text of its clause. -/
theorem ofFragments_eq_ok_iff {fragments : List Value} {clauses : ClauseSet} :
    ofFragments fragments = .ok clauses ↔
      (∀ v ∈ fragments, ∃ role, ClauseRole.ofValue? v = some role) ∧
        ∀ role, fragments.filterMap (ClauseRole.text? role) = (clauses.get? role).toList := by
  constructor
  · intro h
    obtain ⟨draft, hdraft, -⟩ := bind_eq_ok_iff.1 h
    exact ⟨ClauseDraft.role_of_mem_of_foldlM hdraft, texts_of_ofFragments h⟩
  · rintro ⟨hroles, htexts⟩
    have honce (role : ClauseRole) : ((ClauseDraft.empty.get? role).toList ++
        fragments.filterMap (ClauseRole.text? role)).length ≤ 1 := by
      rw [htexts role]
      cases role <;> simp [ClauseDraft.get?, ClauseDraft.empty, Option.length_toList_le]
    obtain ⟨draft, hdraft⟩ := ClauseDraft.exists_foldlM_eq_ok hroles honce
    obtain ⟨found, hfound⟩ : ∃ found, draft.clauses = .ok found := by
      have hterminal := ClauseDraft.texts_of_foldlM hdraft .terminal
      rw [htexts .terminal] at hterminal
      unfold ClauseDraft.clauses
      cases hget : draft.terminal with
      | none =>
          simp [ClauseDraft.get?, ClauseDraft.empty, get?, hget] at hterminal
      | some terminal =>
          exact ⟨_, rfl⟩
    have hread : ofFragments fragments = .ok found := bind_eq_ok_iff.2 ⟨draft, hdraft, hfound⟩
    have hsame : found = clauses := eq_of_get?_eq fun role => Option.ext fun text => by
      have hmem : text ∈ (found.get? role).toList ↔ text ∈ (clauses.get? role).toList := by
        rw [← texts_of_ofFragments hread, htexts]
      simpa using hmem
    rw [hread, hsame]

/-- A list of at most one item is as it is in any order. -/
theorem toList_eq_iff_of_perm
    {α : Type} {xs ys : List α} (h : xs.Perm ys) (o : Option α) :
    xs = o.toList ↔ ys = o.toList := by
  constructor
  · rintro rfl
    cases o with
    | none =>
        exact h.symm.eq_nil
    | some x =>
        exact List.perm_singleton.1 h.symm
  · rintro rfl
    cases o with
    | none =>
        exact h.eq_nil
    | some x =>
        exact List.perm_singleton.1 h

/-- Fragments are read alike in any order. -/
theorem ofFragments_eq_ok_iff_of_perm
    {fragments fragments' : List Value} (h : fragments.Perm fragments') {clauses : ClauseSet} :
    ofFragments fragments = .ok clauses ↔ ofFragments fragments' = .ok clauses := by
  rw [ofFragments_eq_ok_iff, ofFragments_eq_ok_iff]
  refine and_congr ?_ (forall_congr' fun role => ?_)
  · exact forall_congr' fun v => by rw [h.mem_iff]
  · exact toList_eq_iff_of_perm (h.filterMap _) _

/-- The texts of the clauses as fragments. -/
def fragments (clauses : ClauseSet) : List Value :=
  (ClauseRole.all.filterMap clauses.get?).map .str

/-- The clauses of a read are read from their own texts. -/
theorem ofFragments_fragments
    {given : List Value} {clauses : ClauseSet} (h : ofFragments given = .ok clauses) :
    ofFragments clauses.fragments = .ok clauses := by
  have hclause {role : ClauseRole} {text : String} (htext : clauses.get? role = some text) :
      ClauseRole.ofText? text = some role ∧ Text.trim text = text := by
    obtain ⟨fragment, -, hrole, rfl⟩ := (get?_eq_some_iff h).1 htext
    exact ⟨by rw [ClauseRole.ofText?_trim, hrole], Text.trim_trim fragment⟩
  rw [ofFragments_eq_ok_iff]
  constructor
  · intro v hv
    obtain ⟨text, hmem, rfl⟩ := List.mem_map.1 hv
    obtain ⟨role, -, htext⟩ := List.mem_filterMap.1 hmem
    exact ⟨role, (hclause htext).1⟩
  · intro role
    have hown (other : ClauseRole) :
        ((clauses.get? other).bind fun text => role.text? (.str text)) =
          if other = role then clauses.get? role else none := by
      cases hget : clauses.get? other with
      | none =>
          split_ifs with hsame
          · rw [← hsame, hget]
            rfl
          · rfl
      | some text =>
          obtain ⟨hrole, htrim⟩ := hclause hget
          split_ifs with hsame
          · subst hsame
            rw [Option.bind_some, ClauseRole.text?_str hrole, htrim, hget]
          · simp [ClauseRole.text?, ClauseRole.ofValue?, hrole, hsame]
    rw [fragments, List.filterMap_map, List.filterMap_filterMap]
    simp only [Function.comp_def, hown]
    cases hget : clauses.get? role <;> cases role <;> simp [ClauseRole.all]

end ClauseSet

namespace Render

section Moved

variable {args args' : List Value} (h : args.Perm args') (hgroups : groupsOf args = groupsOf args')
include h hgroups

/-- A generic read gives a statement wherever its clauses stand, and the same one. -/
theorem findGraph_eq_ok_iff_of_perm {s : Statement} :
    findGraph args = .ok s ↔ findGraph args' = .ok s := by
  have hclauses : (clausesOf args).Perm (clausesOf args') := h.filter _
  rw [findGraph_eq_ok_iff, findGraph_eq_ok_iff, hgroups]
  refine and_congr ?_ (and_congr_right fun _ => exists_congr fun clauses => ?_)
  · exact forall_congr' fun arg => by rw [h.mem_iff]
  · rw [ClauseSet.ofFragments_eq_ok_iff_of_perm hclauses]

end Moved

/-- Clauses may stand anywhere in a generic read.

Arguments in another order, with the groups among them in the same order, give the same
statement, or are refused for their shape as before.  The clauses of a read are read again
from their own texts, in any order.
-/
theorem clauses_stand_anywhere
    {args args' : List Value} (h : args.Perm args') (hgroups : groupsOf args = groupsOf args') :
    ((∃ s, findGraph args = .ok s ∧ findGraph args' = .ok s) ∨
      ∃ cause cause', findGraph args = .error (.shape cause) ∧
        findGraph args' = .error (.shape cause')) ∧
    ∀ given clauses, ClauseSet.ofFragments given = .ok clauses →
      ∀ fragments, fragments.Perm clauses.fragments →
        ClauseSet.ofFragments fragments = .ok clauses := by
  constructor
  · cases hargs : findGraph args with
    | ok s =>
        exact Or.inl ⟨s, rfl, (findGraph_eq_ok_iff_of_perm h hgroups).1 hargs⟩
    | error e =>
        obtain ⟨cause, rfl⟩ := findGraph_eq_error hargs
        cases hargs' : findGraph args' with
        | ok s =>
            rw [(findGraph_eq_ok_iff_of_perm h hgroups).2 hargs'] at hargs
            cases hargs
        | error e' =>
            obtain ⟨cause', rfl⟩ := findGraph_eq_error hargs'
            exact Or.inr ⟨cause, cause', rfl, rfl⟩
  · intro given clauses hread fragments hperm
    exact (ClauseSet.ofFragments_eq_ok_iff_of_perm hperm).2
      (ClauseSet.ofFragments_fragments hread)

/-- A read of shortest paths, with a gap for the second node. -/
def pathRead : List Value :=
  [.list [.map [("k", .int 1)]], .list [.str "*..3"], .null, .str " RETURN p\n",
    .str "shortestPath "]

def movedPathRead : List Value :=
  [.str "shortestPath ", .list [.map [("k", .int 1)]], .str " RETURN p\n", .list [.str "*..3"],
    .null]

def pathClauses : ClauseSet :=
  { terminal := "RETURN p", filter := none, mutation := none, path := some "shortestPath" }

def pathStatement : Statement :=
  { query := "MATCH (a \x7bk: \x7bpropA\x7d.k\x7d), (b), p=shortestPath((a)-[e *..3]->(b)) RETURN p"
    params := [("propA", .map [("k", .int 1)])] }

/-- With its clauses moved, it is the same statement. -/
theorem path_clauses_are_moved :
    findGraph pathRead = .ok pathStatement ∧ findGraph movedPathRead = .ok pathStatement ∧
      ClauseSet.ofFragments [.str "shortestPath", .str "RETURN p"] = .ok pathClauses := by
  have hperm : pathRead.Perm movedPathRead := by
    decide +kernel
  have hclauses : ClauseSet.ofFragments (clausesOf pathRead) = .ok pathClauses := by
    decide +kernel
  have hread : findGraph pathRead = .ok pathStatement := by
    decide +kernel
  obtain ⟨hsame, hagain⟩ := clauses_stand_anywhere hperm rfl
  have hmoved : findGraph movedPathRead = .ok pathStatement := by
    obtain ⟨s, hs, hmoved⟩ | ⟨cause, -, hcause, -⟩ := hsame
    · obtain rfl := Except.ok.inj (hs.symm.trans hread)
      exact hmoved
    · exact absurd (hcause.symm.trans hread) (by simp)
  exact ⟨hread, hmoved, hagain _ _ hclauses _ (List.Perm.swap _ _ _)⟩

end Render
end CypherBatch
