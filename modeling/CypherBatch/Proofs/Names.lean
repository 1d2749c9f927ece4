import CypherBatch.Name
import CypherBatch.Text.Word
import Mathlib

/-!
# Written names

A name is written as it is when it is a plain identifier, and between backticks
otherwise, with its own backticks doubled.  A plain identifier consists of word
characters, but for a line feed that it may end in.
-/

namespace CypherBatch
namespace Name

theorem toNat_lt_of_isAlphanum {c : Char} (h : c.isAlphanum = true) :
    c.toNat < 128 := by
  simp only [Char.isAlphanum, Char.isAlpha, Char.isUpper, Char.isLower, Char.isDigit,
    Bool.or_eq_true, Bool.and_eq_true, decide_eq_true_eq] at h
  rcases h with (⟨-, h⟩ | ⟨-, h⟩) | ⟨-, h⟩
  · exact Nat.lt_of_le_of_lt (UInt32.le_iff_toNat_le.1 h) (by decide)
  · exact Nat.lt_of_le_of_lt (UInt32.le_iff_toNat_le.1 h) (by decide)
  · exact Nat.lt_of_le_of_lt (UInt32.le_iff_toNat_le.1 h) (by decide)

theorem isWord_of_isIdentifierPart {c : Char} (h : isIdentifierPart c = true) :
    Text.isWord c = true := by
  rcases Bool.or_eq_true_iff.1 h with halnum | hline
  · exact Text.isWord_of_isAlphanum (toNat_lt_of_isAlphanum halnum) halnum
  · simp only [decide_eq_true_eq] at hline
    subst hline
    rfl

theorem isIdentifierPart_of_isIdentifierStart {c : Char} (h : isIdentifierStart c = true) :
    isIdentifierPart c = true := by
  rcases Bool.or_eq_true_iff.1 h with halpha | hline
  · simp [isIdentifierPart, Char.isAlphanum, halpha]
  · simp [isIdentifierPart, hline]

theorem isIdentifierPart_or_eq_of_isIdentifierTail
    {cs : List Char} (h : isIdentifierTail cs = true) :
    ∀ c ∈ cs, isIdentifierPart c = true ∨ c = '\n' := by
  induction cs with
  | nil =>
      simp
  | cons c cs ih =>
      intro d hd
      by_cases hline : c = '\n' ∧ cs = []
      · obtain ⟨rfl, rfl⟩ := hline
        exact Or.inr (by simpa using hd)
      · rw [isIdentifierTail.eq_3 c cs (by
          rintro rfl rfl
          exact hline ⟨rfl, rfl⟩), Bool.and_eq_true] at h
        rcases List.mem_cons.1 hd with rfl | hd
        · exact Or.inl h.1
        · exact ih h.2 d hd

/-- The characters of a plain identifier are word characters, but for a line feed at its end. -/
theorem isWord_or_eq_of_isPlain
    {cs : List Char} (h : isPlain cs = true) :
    ∀ c ∈ cs, Text.isWord c = true ∨ c = '\n' := by
  cases cs with
  | nil =>
      simp
  | cons c cs =>
      rw [isPlain, Bool.and_eq_true] at h
      intro d hd
      rcases List.mem_cons.1 hd with rfl | hd
      · exact Or.inl
          (isWord_of_isIdentifierPart (isIdentifierPart_of_isIdentifierStart h.1))
      · exact (isIdentifierPart_or_eq_of_isIdentifierTail h.2 d hd).imp_left
          isWord_of_isIdentifierPart

theorem not_mem_of_isPlain
    {cs : List Char} {c : Char} (h : isPlain cs = true)
    (hword : Text.isWord c = false) (hline : c ≠ '\n') :
    c ∉ cs := by
  intro hc
  rcases isWord_or_eq_of_isPlain h c hc with htrue | heq
  · simp [hword] at htrue
  · exact hline heq

theorem quotedChars_of_isPlain {cs : List Char} (h : isPlain cs = true) :
    quotedChars cs = cs := by
  simp [quotedChars, h]

theorem quotedChars_of_not_isPlain {cs : List Char} (h : isPlain cs = false) :
    quotedChars cs = tick :: (cs.flatMap doubled ++ [tick]) := by
  simp [quotedChars, h]

theorem flatMap_doubled_of_not_mem {cs : List Char} (h : tick ∉ cs) :
    cs.flatMap doubled = cs := by
  induction cs with
  | nil =>
      rfl
  | cons c cs ih =>
      simp only [List.mem_cons, not_or] at h
      simp [doubled, Ne.symm h.1, ih h.2]

theorem mem_flatMap_doubled_iff {cs : List Char} {c : Char} :
    c ∈ cs.flatMap doubled ↔ c ∈ cs := by
  have hdoubled (d : Char) : c ∈ doubled d ↔ c = d := by
    by_cases hd : d = tick <;> simp [doubled, hd]
  simp [List.mem_flatMap, hdoubled]

/-- Only a backtick is added to a name when it is written. -/
theorem mem_quotedChars {cs : List Char} {c : Char} (h : c ∈ quotedChars cs) :
    c ∈ cs ∨ c = tick := by
  cases hplain : isPlain cs with
  | true =>
      rw [quotedChars_of_isPlain hplain] at h
      exact Or.inl h
  | false =>
      rw [quotedChars_of_not_isPlain hplain] at h
      simp only [List.mem_cons, List.mem_append, mem_flatMap_doubled_iff, List.not_mem_nil,
        or_false] at h
      rcases h with h | h | h
      · exact Or.inr h
      · exact Or.inl h
      · exact Or.inr h

end Name
end CypherBatch
