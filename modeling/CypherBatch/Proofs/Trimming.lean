import CypherBatch.Clause
import Mathlib.Data.List.DropRight
import Mathlib.Tactic

/-!
# White space around a clause

A text is trimmed by cutting off the white space at its ends, so it is the trimmed text
with white space in front and behind.  What is trimmed stays as it is when it is trimmed
again.

The role of a clause does not depend on that white space.  In front of a clause it is
passed over.  Behind it, no keyword goes on into white space, since a keyword consists of
letters, and a word that ends before white space ends as it does at the end of the text.
-/

namespace CypherBatch

namespace Text

/-- White space is no part of a word. -/
theorem isWord_of_isBlank {c : Char} (h : isBlank c = true) : isWord c = false := by
  have hnarrow : ∀ n < 33, isWord (Char.ofNat n) = true → isBlank (Char.ofNat n) = false := by
    decide +kernel
  have hwide : ∀ n ∈ wideBlanks, isWord (Char.ofNat n) = false := by
    decide +kernel
  have hsame : Char.ofNat c.toNat = c := Char.ofNat_toNat c
  rcases Nat.lt_or_ge c.toNat 33 with hlow | hhigh
  · by_contra hword
    have hblank := hnarrow c.toNat hlow (by rw [hsame]; simpa using hword)
    rw [hsame, h] at hblank
    cases hblank
  · have hmem : c.toNat ∈ wideBlanks := by
      simp only [isBlank, Bool.or_eq_true, Bool.and_eq_true, decide_eq_true_eq,
        List.contains_iff_mem] at h
      rcases h with (h | h) | h
      · omega
      · omega
      · exact h
    rw [← hsame]
    exact hwide _ hmem

/-- A text is what is left at its front and the white space behind that. -/
theorem exists_dropBlankEnd_append (cs : List Char) :
    ∃ blanks, (∀ c ∈ blanks, isBlank c = true) ∧ dropBlankEnd cs ++ blanks = cs :=
  ⟨cs.rtakeWhile isBlank, fun _ => List.mem_rtakeWhile_imp,
    List.rdropWhile_append_rtakeWhile⟩

theorem dropBlank_eq_nil {cs : List Char} (h : ∀ c ∈ cs, isBlank c = true) : dropBlank cs = [] :=
  List.dropWhile_eq_nil_iff.2 h

/-- White space behind a text stays there when what is in front is cut off, or goes with it. -/
theorem dropBlank_append
    {blanks : List Char} (hblanks : ∀ c ∈ blanks, isBlank c = true) (rest : List Char) :
    dropBlank (rest ++ blanks) = dropBlank rest ∨
      dropBlank (rest ++ blanks) = dropBlank rest ++ blanks := by
  by_cases hrest : ∀ c ∈ rest, isBlank c = true
  · have hall : ∀ c ∈ rest ++ blanks, isBlank c = true := fun c hc =>
      (List.mem_append.1 hc).elim (hrest c) (hblanks c)
    exact Or.inl (by rw [dropBlank_eq_nil hall, dropBlank_eq_nil hrest])
  · refine Or.inr ?_
    rw [dropBlank, List.dropWhile_append, if_neg]
    · rfl
    · simpa using hrest

/-- A text that is cut off at its end begins as before. -/
theorem dropBlank_dropBlankEnd (cs : List Char) :
    dropBlank (dropBlankEnd (dropBlank cs)) = dropBlankEnd (dropBlank cs) := by
  obtain ⟨blanks, -, happend⟩ := exists_dropBlankEnd_append (dropBlank cs)
  cases hcut : dropBlankEnd (dropBlank cs) with
  | nil =>
      rfl
  | cons c rest =>
      rw [hcut] at happend
      have hfirst : isBlank c = false := head_dropBlank_not_isBlank happend.symm
      simp [dropBlank, hfirst]

/-- A trimmed text begins with no white space. -/
@[simp] theorem dropBlank_trim (s : String) : dropBlank (trim s).toList = (trim s).toList := by
  rw [trim, String.toList_ofList, dropBlank_dropBlankEnd]

/-- A trimmed text ends in no white space. -/
@[simp] theorem dropBlankEnd_trim (s : String) :
    dropBlankEnd (trim s).toList = (trim s).toList := by
  rw [trim, String.toList_ofList]
  exact List.rdropWhile_idempotent isBlank _

@[simp] theorem trim_trim (s : String) : trim (trim s) = trim s := by
  rw [trim, dropBlank_trim, dropBlankEnd_trim, String.ofList_toList]

/-- A text that ends in no white space has none behind any part of it. -/
theorem eq_nil_of_dropBlankEnd
    {word blanks : List Char} (hblanks : ∀ c ∈ blanks, isBlank c = true)
    (hend : dropBlankEnd (word ++ blanks) = word ++ blanks) : blanks = [] := by
  by_contra hne
  have hlast := List.rdropWhile_eq_self_iff.1 hend (List.append_ne_nil_of_right_ne_nil word hne)
  rw [List.getLast_append_of_ne_nil _ hne] at hlast
  exact hlast (hblanks _ (List.getLast_mem hne))

end Text

namespace Clause

open Text

theorem atWordEnd_append
    {blanks : List Char} (hblanks : ∀ c ∈ blanks, isBlank c = true) (rest : List Char) :
    atWordEnd (rest ++ blanks) = atWordEnd rest := by
  cases rest with
  | cons c rest =>
      rfl
  | nil =>
      cases blanks with
      | nil =>
          rfl
      | cons c blanks =>
          simp [atWordEnd, isWord_of_isBlank (hblanks c (by simp))]

/-- The code points of the capital letters. -/
theorem toNat_of_isUpper {k : Char} (hk : k.isUpper = true) : 65 ≤ k.toNat ∧ k.toNat ≤ 90 := by
  obtain ⟨hlow, hhigh⟩ := of_decide_eq_true hk
  exact ⟨UInt32.le_iff_toNat_le.1 hlow, UInt32.le_iff_toNat_le.1 hhigh⟩

/-- A capital letter is not white space in either case. -/
theorem sameLetter_of_isBlank
    {k c : Char} (hk : k.isUpper = true) (hc : isBlank c = true) : sameLetter k c = false := by
  have hblank : c.toNat ≤ 32 ∨ 133 ≤ c.toNat ∧ c.toNat ≠ 0x17f := by
    have hwide : ∀ n ∈ wideBlanks, 133 ≤ n ∧ n ≠ 0x17f := by
      decide
    simp only [isBlank, Bool.or_eq_true, Bool.and_eq_true, decide_eq_true_eq,
      List.contains_iff_mem] at hc
    rcases hc with (hc | hc) | hc
    · omega
    · omega
    · exact Or.inr (hwide _ hc)
  have hupper := toNat_of_isUpper hk
  have hcapital : c ≠ k := by
    rintro rfl
    omega
  have hlong : c ≠ '\u017f' := by
    rintro rfl
    exact absurd hblank (by decide)
  have hsmall : c.toNat ≠ k.toNat + 32 := by
    omega
  simp [sameLetter, hcapital, hlong, hsmall]

section Keywords

variable {keyword : List Char} (hkeyword : ∀ k ∈ keyword, k.isUpper = true)
  {blanks : List Char} (hblanks : ∀ c ∈ blanks, isBlank c = true)
include hkeyword hblanks

/-- A keyword does not go on into white space. -/
theorem afterKeyword?_append (cs : List Char) :
    afterKeyword? keyword (cs ++ blanks) = (afterKeyword? keyword cs).map (· ++ blanks) := by
  induction keyword generalizing cs with
  | nil =>
      rfl
  | cons k keyword ih =>
      cases cs with
      | nil =>
          cases blanks with
          | nil =>
              rfl
          | cons c blanks =>
              have hletter : sameLetter k c = false :=
                sameLetter_of_isBlank (hkeyword k (by simp)) (hblanks c (by simp))
              simp [afterKeyword?, hletter]
      | cons c cs =>
          rw [List.cons_append, afterKeyword?, afterKeyword?,
            ih fun other hother => hkeyword other (by simp [hother])]
          split <;> rfl

end Keywords

/-- The keywords that clauses open with. -/
def keywords : List String :=
  ["WHERE", "SET", "REMOVE", "RETURN", "DELETE", "DETACH", "ALLSHORTESTPATHS", "SHORTESTPATH"]

/-- Keywords are written in capital letters. -/
theorem isUpper_of_mem_keywords
    {keyword : String} (h : keyword ∈ keywords) : ∀ k ∈ keyword.toList, k.isUpper = true := by
  have hall : (keywords.all fun keyword => keyword.toList.all Char.isUpper) = true := by
    decide +kernel
  exact List.all_eq_true.1 (List.all_eq_true.1 hall keyword h)

section Roles

variable {first second : String} (hfirst : first ∈ keywords) (hsecond : second ∈ keywords)
  {blanks : List Char} (hblanks : ∀ c ∈ blanks, isBlank c = true)
include hfirst hblanks

theorem opens_append (cs : List Char) : opens first (cs ++ blanks) = opens first cs := by
  rw [opens, opens, afterKeyword?_append (isUpper_of_mem_keywords hfirst) hblanks]
  cases afterKeyword? first.toList cs with
  | none =>
      rfl
  | some rest =>
      exact atWordEnd_append hblanks rest

theorem isAlone_append (cs : List Char) : isAlone first (cs ++ blanks) = isAlone first cs := by
  rw [isAlone, isAlone, afterKeyword?_append (isUpper_of_mem_keywords hfirst) hblanks]
  cases afterKeyword? first.toList cs with
  | none =>
      rfl
  | some rest =>
      have hall : blanks.all isBlank = true := List.all_eq_true.2 hblanks
      simp [List.all_append, hall]

include hsecond

theorem opensTwo_append (hne : opens second [] = false) (cs : List Char) :
    opensTwo first second (cs ++ blanks) = opensTwo first second cs := by
  rw [opensTwo, opensTwo, afterKeyword?_append (isUpper_of_mem_keywords hfirst) hblanks]
  cases afterKeyword? first.toList cs with
  | none =>
      rfl
  | some rest =>
      cases rest with
      | nil =>
          cases blanks with
          | nil =>
              rfl
          | cons c blanks =>
              have hnil : dropBlank blanks = [] :=
                dropBlank_eq_nil fun d hd => hblanks d (by simp [hd])
              simp [hnil, hne]
      | cons c rest =>
          have hbehind : opens second (dropBlank (rest ++ blanks)) =
              opens second (dropBlank rest) := by
            rcases dropBlank_append hblanks rest with hsame | hmore
            · rw [hsame]
            · rw [hmore, opens_append hsecond hblanks]
          simp [hbehind]

end Roles

end Clause

namespace ClauseRole

open Text

/-- White space behind a text does not change its role. -/
theorem matchesTrimmed_append
    (role : ClauseRole) {blanks : List Char} (hblanks : ∀ c ∈ blanks, isBlank c = true)
    (cs : List Char) :
    role.matchesTrimmed (cs ++ blanks) = role.matchesTrimmed cs := by
  have hopens {keyword : String} (h : keyword ∈ Clause.keywords) :=
    Clause.opens_append h hblanks cs
  have halone {keyword : String} (h : keyword ∈ Clause.keywords) :=
    Clause.isAlone_append h hblanks cs
  cases role with
  | filter =>
      exact hopens (by simp [Clause.keywords])
  | mutation =>
      rw [matchesTrimmed, matchesTrimmed, hopens (by simp [Clause.keywords]),
        hopens (by simp [Clause.keywords])]
  | terminal =>
      have hdetach : Clause.opensTwo "DETACH" "DELETE" (cs ++ blanks) =
          Clause.opensTwo "DETACH" "DELETE" cs :=
        Clause.opensTwo_append (by simp [Clause.keywords]) (by simp [Clause.keywords]) hblanks
          rfl cs
      rw [matchesTrimmed, matchesTrimmed, hopens (by simp [Clause.keywords]),
        hopens (by simp [Clause.keywords]), hdetach]
  | path =>
      rw [matchesTrimmed, matchesTrimmed, halone (by simp [Clause.keywords]),
        halone (by simp [Clause.keywords])]

/-- A text plays the role that it plays when it is trimmed. -/
theorem accepts_trim (role : ClauseRole) (text : String) :
    role.accepts (trim text) = role.accepts text := by
  obtain ⟨blanks, hblanks, happend⟩ := exists_dropBlankEnd_append (dropBlank text.toList)
  have hcut := role.matchesTrimmed_append hblanks (dropBlankEnd (dropBlank text.toList))
  rw [happend] at hcut
  rw [accepts, accepts, trim, String.toList_ofList, dropBlank_dropBlankEnd, hcut]

theorem ofText?_trim (text : String) : ofText? (trim text) = ofText? text := by
  simp only [ofText?, accepts_trim]

end ClauseRole
end CypherBatch
