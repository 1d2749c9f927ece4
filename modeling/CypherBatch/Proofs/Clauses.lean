import CypherBatch.Clause
import CypherBatch.Proofs.Outcomes
import CypherBatch.Proofs.PatternTexts

/-!
# How clauses are read

Each fragment is kept under its role, and a role is filled once.  So the clauses of
a read are, role by role, the trimmed texts of the fragments of that role, of which
there is at most one; the role that ends the statement has exactly one.
-/

namespace CypherBatch

open Outcome

namespace Text

theorem mem_of_mem_trim {s : String} {c : Char} (h : c ∈ (trim s).toList) :
    c ∈ s.toList := by
  rw [trim, String.toList_ofList, dropBlankEnd, List.mem_reverse] at h
  have hrest := (List.dropWhile_sublist isBlank).subset h
  exact (List.dropWhile_sublist isBlank).subset (List.mem_reverse.1 hrest)

end Text

namespace ClauseRole

/-- The text that a value gives to the role. -/
def text? (role : ClauseRole) (v : Value) : Option String :=
  if ofValue? v = some role then v.text?.map Text.trim else none

/-- A fragment of the role gives its trimmed text. -/
theorem text?_str {role : ClauseRole} {text : String} (h : ofText? text = some role) :
    role.text? (.str text) = some (Text.trim text) := by
  simp [text?, ofValue?, h, Value.text?]

theorem exists_of_text?_eq_some {role : ClauseRole} {v : Value} {text : String}
    (h : role.text? v = some text) :
    ∃ fragment, v = .str fragment ∧ ofText? fragment = some role ∧
      text = Text.trim fragment := by
  unfold text? at h
  split at h
  · rename_i hrole
    cases v with
    | str fragment =>
        exact ⟨fragment, rfl, hrole, (Option.some.inj h).symm⟩
    | null | bool | int | float | list | map =>
        cases hrole
  · cases h

end ClauseRole

namespace ClauseDraft

theorem get?_put (draft : ClauseDraft) (text : String) (role other : ClauseRole) :
    (draft.put text role).get? other = if other = role then some text else draft.get? other := by
  cases role <;> cases other <;> rfl

theorem add_eq_ok_iff {draft next : ClauseDraft} {fragment : Value} :
    add draft fragment = .ok next ↔
      ∃ text role, fragment = .str text ∧ ClauseRole.ofText? text = some role ∧
        draft.get? role = none ∧ next = draft.put (Text.trim text) role := by
  cases fragment with
  | null | bool | int | float | list | map =>
      simp [add]
  | str text =>
      cases hrole : ClauseRole.ofText? text with
      | none =>
          simp [add, hrole]
      | some role =>
          cases hfirst : draft.get? role with
          | none =>
              simp [add, hrole, hfirst, eq_comm]
          | some first =>
              simp [add, hrole, hfirst]

/-- The texts of a role are as before when one of them is put in its place. -/
theorem texts_put
    {draft : ClauseDraft} {text : String} {role : ClauseRole}
    (hrole : ClauseRole.ofText? text = some role) (hfree : draft.get? role = none)
    (rest : List Value) (other : ClauseRole) :
    ((draft.put (Text.trim text) role).get? other).toList ++ rest.filterMap other.text? =
      (draft.get? other).toList ++ (Value.str text :: rest).filterMap other.text? := by
  rw [get?_put]
  by_cases hother : other = role
  · subst hother
    rw [if_pos rfl, hfree, List.filterMap_cons_some (ClauseRole.text?_str hrole)]
    rfl
  · have hnone : other.text? (.str text) = none := by
      simp [ClauseRole.text?, ClauseRole.ofValue?, hrole, Ne.symm hother]
    rw [if_neg hother, List.filterMap_cons_none hnone]

/-- The text found for a role is the one text of that role among the fragments and the draft. -/
theorem texts_of_foldlM
    {fragments : List Value} {draft final : ClauseDraft}
    (h : fragments.foldlM add draft = .ok final) (role : ClauseRole) :
    (draft.get? role).toList ++ fragments.filterMap role.text? = (final.get? role).toList := by
  induction fragments generalizing draft with
  | nil =>
      cases h
      simp
  | cons v rest ih =>
      rw [List.foldlM_cons, bind_eq] at h
      obtain ⟨next, hv, hrest⟩ := bind_eq_ok_iff.1 h
      obtain ⟨text, found, rfl, hfound, hfree, rfl⟩ := add_eq_ok_iff.1 hv
      rw [← texts_put hfound hfree rest role]
      exact ih hrest

end ClauseDraft

namespace ClauseSet

/-- The clause of a role. -/
def get? (clauses : ClauseSet) : ClauseRole → Option String
  | .filter => clauses.filter
  | .mutation => clauses.mutation
  | .terminal => some clauses.terminal
  | .path => clauses.path

/-- The clauses of a read are the texts of its fragments, role by role. -/
theorem texts_of_ofFragments
    {fragments : List Value} {clauses : ClauseSet}
    (h : ofFragments fragments = .ok clauses) (role : ClauseRole) :
    fragments.filterMap role.text? = (clauses.get? role).toList := by
  obtain ⟨draft, hdraft, hclauses⟩ := bind_eq_ok_iff.1 h
  have htexts := ClauseDraft.texts_of_foldlM hdraft role
  unfold ClauseDraft.clauses at hclauses
  cases hterminal : draft.terminal with
  | none =>
      simp [hterminal] at hclauses
  | some terminal =>
      simp only [hterminal, Except.ok.injEq] at hclauses
      subst hclauses
      cases role with
      | terminal =>
          simpa [ClauseDraft.get?, ClauseDraft.empty, get?, hterminal] using htexts
      | filter | mutation | path =>
          simpa [ClauseDraft.get?, ClauseDraft.empty, get?] using htexts

/-- The clause of a role is the trimmed text of a fragment that plays the role. -/
theorem get?_eq_some_iff
    {fragments : List Value} {clauses : ClauseSet} (h : ofFragments fragments = .ok clauses)
    {role : ClauseRole} {text : String} :
    clauses.get? role = some text ↔
      ∃ fragment, Value.str fragment ∈ fragments ∧ ClauseRole.ofText? fragment = some role ∧
        text = Text.trim fragment := by
  rw [← Option.mem_toList, ← texts_of_ofFragments h role, List.mem_filterMap]
  constructor
  · rintro ⟨v, hv, htext⟩
    obtain ⟨fragment, rfl, hrole, rfl⟩ := ClauseRole.exists_of_text?_eq_some htext
    exact ⟨fragment, hv, hrole, rfl⟩
  · rintro ⟨fragment, hfragment, hrole, rfl⟩
    exact ⟨_, hfragment, ClauseRole.text?_str hrole⟩

/-- A clause consists of characters of a fragment. -/
theorem mem_fragment_of_mem_clause
    {fragments : List Value} {clauses : ClauseSet} (h : ofFragments fragments = .ok clauses)
    {role : ClauseRole} {text : String} (htext : clauses.get? role = some text)
    {c : Char} (hc : c ∈ text.toList) :
    ∃ s, Value.str s ∈ fragments ∧ c ∈ s.toList := by
  obtain ⟨fragment, hfragment, -, rfl⟩ := (get?_eq_some_iff h).1 htext
  exact ⟨fragment, hfragment, Text.mem_of_mem_trim hc⟩

/-- A read has a path clause exactly when a fragment asks for a path. -/
theorem path_isSome_iff
    {fragments : List Value} {clauses : ClauseSet} (h : ofFragments fragments = .ok clauses) :
    clauses.path.isSome = true ↔ ∃ v ∈ fragments, ClauseRole.ofValue? v = some .path := by
  have hpath {text : String} : clauses.path = some text ↔
      ∃ fragment, Value.str fragment ∈ fragments ∧
        ClauseRole.ofText? fragment = some .path ∧ text = Text.trim fragment :=
    @get?_eq_some_iff _ _ h .path text
  constructor
  · intro hsome
    obtain ⟨text, htext⟩ := Option.isSome_iff_exists.1 hsome
    obtain ⟨fragment, hfragment, hrole, -⟩ := hpath.1 htext
    exact ⟨_, hfragment, hrole⟩
  · rintro ⟨v, hv, hrole⟩
    cases v with
    | str fragment =>
        exact Option.isSome_iff_exists.2 ⟨_, hpath.2 ⟨fragment, hv, hrole, rfl⟩⟩
    | null | bool | int | float | list | map =>
        cases hrole

/-- The tail of a read consists of characters of its clauses, and spaces. -/
theorem mem_tail
    {clauses : ClauseSet} {c : Char} (h : c ∈ clauses.tail.toList) :
    c = ' ' ∨ ∃ role text, clauses.get? role = some text ∧ c ∈ text.toList := by
  rcases Pattern.mem_intercalate h with hspace | ⟨part, hpart, hc⟩
  · exact Or.inl (by simpa using hspace)
  · obtain ⟨text, htext, rfl⟩ := List.mem_map.1 hpart
    have hc := Text.mem_of_mem_trim hc
    have hgiven := List.mem_of_mem_filter htext
    simp only [List.mem_cons, List.not_mem_nil, or_false] at hgiven
    have hclause {role : ClauseRole} (hrole : text = (clauses.get? role).getD "") :
        ∃ role text, clauses.get? role = some text ∧ c ∈ text.toList := by
      cases hget : clauses.get? role with
      | none =>
          rw [hget] at hrole
          rw [hrole] at hc
          simp at hc
      | some found =>
          rw [hget, Option.getD_some] at hrole
          exact ⟨role, found, hget, by rwa [← hrole]⟩
    rcases hgiven with hgiven | hgiven | hgiven
    · exact Or.inr (@hclause .filter hgiven)
    · exact Or.inr (@hclause .mutation hgiven)
    · exact Or.inr (@hclause .terminal hgiven)

end ClauseSet

end CypherBatch
