import CypherBatch.Text.Split
import Mathlib.Tactic

/-!
# Joined and split texts

A text is split at its first separator and then behind it, or it holds none and is
its only part.  So the parts of a text, joined again, are the text.

The other way round, joined texts are found again exactly when the first separator
behind each text but the last is the one that was put there, and the last text holds
none.  A text that ends in a piece of the separator can break this: `a_` and `b`
joined by two underscores are split into `a` and `_b`.
-/

namespace CypherBatch
namespace Text

/-- Does the first separator in a text with a separator behind it begin where the text ends? -/
def EndsClear (sep cs : List Char) : Prop :=
  ∀ i < cs.length, ¬ sep <+: (cs ++ sep).drop i

section Characters

variable {sep cs : List Char}

theorem endsClear_nil (sep : List Char) : EndsClear sep [] := by
  intro i hi
  cases hi

theorem endsClear_cons {c : Char} :
    EndsClear sep (c :: cs) ↔ ¬ sep <+: c :: (cs ++ sep) ∧ EndsClear sep cs := by
  constructor
  · intro h
    exact ⟨h 0 (by simp), fun i hi => h (i + 1) (by simpa using hi)⟩
  · rintro ⟨hhead, htail⟩ i hi
    cases i with
    | zero =>
        exact hhead
    | succ i =>
        exact htail i (by simpa using hi)

theorem splitOn_cons_of_not_begins
    {c : Char} (h : ¬ sep <+: c :: cs) :
    splitOn sep (c :: cs) = consFirst c (splitOn sep cs) := by
  have hnot : ¬ sep.isPrefixOf (c :: cs) = true := by
    rwa [List.isPrefixOf_iff_prefix]
  simp only [splitOn, splitFrom, if_neg hnot]

theorem splitOn_append
    (hsep : sep ≠ []) (rest : List Char) :
    splitOn sep (sep ++ rest) = [] :: splitOn sep rest := by
  obtain ⟨c, sep, rfl⟩ := List.exists_cons_of_ne_nil hsep
  have hbegins : (c :: sep).isPrefixOf (c :: (sep ++ rest)) = true :=
    List.isPrefixOf_iff_prefix.2 ⟨rest, rfl⟩
  simp [splitOn, splitFrom, hbegins, splitFrom_eq_drop _ sep.length]

/-- A text without a separator is its only part. -/
theorem splitOn_of_not_holds (h : ¬ sep <:+: cs) :
    splitOn sep cs = [cs] := by
  induction cs with
  | nil =>
      rfl
  | cons c cs ih =>
      rw [List.infix_cons_iff, not_or] at h
      rw [splitOn_cons_of_not_begins h.1, ih h.2]
      rfl

/-- A text is split at its first separator. -/
theorem splitOn_append_append
    (hsep : sep ≠ []) (h : EndsClear sep cs) (rest : List Char) :
    splitOn sep (cs ++ (sep ++ rest)) = cs :: splitOn sep rest := by
  induction cs with
  | nil =>
      exact splitOn_append hsep rest
  | cons c cs ih =>
      rw [endsClear_cons] at h
      -- A separator at the head would end before the one behind the text does.
      have hnot : ¬ sep <+: c :: (cs ++ (sep ++ rest)) := by
        intro hbegins
        refine h.1 (List.prefix_of_prefix_length_le hbegins ⟨rest, by simp⟩ ?_)
        simp only [List.length_cons, List.length_append]
        omega
      rw [List.cons_append, splitOn_cons_of_not_begins hnot, ih h.2]
      rfl

/-- In a text with a separator there is a first one. -/
theorem exists_endsClear (h : sep <:+: cs) :
    ∃ first rest, cs = first ++ (sep ++ rest) ∧ EndsClear sep first := by
  induction cs with
  | nil =>
      obtain rfl := List.infix_nil.1 h
      exact ⟨[], [], rfl, endsClear_nil _⟩
  | cons c cs ih =>
      by_cases hbegins : sep <+: c :: cs
      · obtain ⟨rest, hrest⟩ := hbegins
        exact ⟨[], rest, hrest.symm, endsClear_nil _⟩
      · obtain ⟨first, rest, rfl, hclear⟩ :=
          ih ((List.infix_cons_iff.1 h).resolve_left hbegins)
        refine ⟨c :: first, rest, rfl, endsClear_cons.2 ⟨?_, hclear⟩⟩
        intro hfirst
        exact hbegins (hfirst.trans ⟨rest, by simp⟩)

/-- A text ends clear of a doubled character if it neither holds it nor ends in half of it. -/
theorem endsClear_pair_iff {c : Char} :
    EndsClear [c, c] cs ↔ ¬ [c, c] <:+: cs ∧ ¬ [c] <:+ cs := by
  induction cs with
  | nil =>
      simp [endsClear_nil]
  | cons d cs ih =>
      rw [endsClear_cons, ih, List.infix_cons_iff, List.suffix_cons_iff]
      cases cs with
      | nil =>
          simp
      | cons e cs =>
          simp
          tauto

end Characters

section Parts

variable {sep : String}

/-- A text has a separator in it and is split at the first one, or it is its only part. -/
theorem parts_cases (hsep : sep ≠ "") (s : String) :
    (¬ sep.toList <:+: s.toList ∧ parts sep s = [s]) ∨
      ∃ first rest, s = first ++ (sep ++ rest) ∧ EndsClear sep.toList first.toList ∧
        parts sep s = first :: parts sep rest := by
  have hne : sep.toList ≠ [] := by
    simpa using hsep
  by_cases hholds : sep.toList <:+: s.toList
  · obtain ⟨first, rest, hs, hclear⟩ := exists_endsClear hholds
    refine Or.inr ⟨String.ofList first, String.ofList rest, ?_, by simpa using hclear, ?_⟩
    · rw [← String.toList_inj]
      simpa using hs
    · simp only [parts, hs, splitOn_append_append hne hclear, List.map_cons, String.toList_ofList]
  · refine Or.inl ⟨hholds, ?_⟩
    simp [parts, splitOn_of_not_holds hholds]

theorem parts_of_not_holds
    {s : String} (h : ¬ sep.toList <:+: s.toList) :
    parts sep s = [s] := by
  simp [parts, splitOn_of_not_holds h]

theorem parts_append
    {first : String} (hsep : sep ≠ "") (h : EndsClear sep.toList first.toList) (rest : String) :
    parts sep (first ++ (sep ++ rest)) = first :: parts sep rest := by
  have hne : sep.toList ≠ [] := by
    simpa using hsep
  simp [parts, splitOn_append_append hne h]

theorem parts_ne_nil (sep s : String) : parts sep s ≠ [] := by
  simpa [parts, splitOn] using splitFrom_ne_nil sep.toList 0 s.toList

/-- The parts of a text, joined again, are the text. -/
theorem intercalate_parts (hsep : sep ≠ "") (s : String) :
    sep.intercalate (parts sep s) = s := by
  induction hn : s.length using Nat.strong_induction_on generalizing s with
  | _ n ih =>
      obtain ⟨-, hparts⟩ | ⟨first, rest, rfl, -, hparts⟩ := parts_cases hsep s
      · rw [hparts, String.intercalate_singleton]
      · have hlength : rest.length < n := by
          have hpos : sep.length ≠ 0 := by
            simpa using hsep
          rw [← hn, String.length_append, String.length_append]
          omega
        rw [hparts, String.intercalate_cons_of_ne_nil (parts_ne_nil sep rest),
          ih rest.length hlength rest rfl, String.append_assoc]

/-- Can the texts of a list be found again when they are joined? -/
def Splits (sep : String) : List String → Prop
  | [] => False
  | [last] => ¬ sep.toList <:+: last.toList
  | first :: next :: rest => EndsClear sep.toList first.toList ∧ Splits sep (next :: rest)

/-- Joined texts are split into the same texts exactly when each of them ends clear. -/
theorem parts_intercalate_iff (hsep : sep ≠ "") (path : List String) :
    parts sep (sep.intercalate path) = path ↔ Splits sep path := by
  fun_induction Splits sep path with
  | case1 =>
      simp [parts_ne_nil]
  | case2 last =>
      rw [String.intercalate_singleton]
      obtain ⟨hnot, hparts⟩ | ⟨first, rest, hlast, -, hparts⟩ := parts_cases hsep last
      · simp [hnot, hparts]
      · have hholds : sep.toList <:+: last.toList := by
          rw [hlast]
          exact ⟨first.toList, rest.toList, by simp⟩
        simp [hholds, hparts, parts_ne_nil]
  | case3 first next rest ih =>
      rw [String.intercalate_cons_cons, String.append_assoc, ← ih]
      constructor
      · intro h
        obtain ⟨-, hparts⟩ | ⟨head, tail, heq, hclear, hparts⟩ :=
          parts_cases hsep (first ++ (sep ++ sep.intercalate (next :: rest)))
        · rw [hparts] at h
          simp at h
        · rw [hparts, List.cons.injEq] at h
          obtain ⟨rfl, h⟩ := h
          have htail : sep.intercalate (next :: rest) = tail := by
            rw [← String.toList_inj] at heq ⊢
            simpa using heq
          exact ⟨hclear, htail ▸ h⟩
      · rintro ⟨hclear, h⟩
        rw [parts_append hsep hclear, h]

end Parts

end Text
end CypherBatch
