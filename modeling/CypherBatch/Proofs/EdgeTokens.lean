import CypherBatch.EdgeType
import Mathlib.Data.List.TakeWhile
import Mathlib.Tactic

/-!
# Reading edge tokens

The reader of edge types takes a text apart from the left.  This module says what
each of its parts finds:

* a name between backticks ends at the first backtick;
* a label is such a name or a run of word characters that does not go on;
* the labels of a token are as many as can be read, each behind its colon;
* the token that is found splits the text, and its labels are read from there.

A type is readable when its written form is read back as one label: it holds no
backtick, and no line feed that an identifier may end in.
-/

namespace CypherBatch
namespace EdgeType

/-- A label as it stands in a text: a name between backticks, or word characters. -/
def IsLabel (label : List Char) : Prop :=
  (∃ name, name ≠ [] ∧ Name.tick ∉ name ∧ label = Name.tick :: (name ++ [Name.tick])) ∨
    (label ≠ [] ∧ ∀ c ∈ label, Text.isWord c = true)

/-- Labels as they stand behind the variable, each behind a colon. -/
def labelRun (labels : List (List Char)) : List Char :=
  labels.flatMap fun label => ':' :: label

/-- Is the written form of the type read back as one label? -/
def Readable (type : String) : Prop :=
  Name.tick ∉ type.toList ∧ (Name.isPlain type.toList = true → '\n' ∉ type.toList)

@[simp] theorem labelRun_nil : labelRun [] = [] := by
  rfl

@[simp] theorem labelRun_cons (label : List Char) (labels : List (List Char)) :
    labelRun (label :: labels) = ':' :: (label ++ labelRun labels) := by
  simp [labelRun]

theorem isWord_tick : Text.isWord Name.tick = false := by
  decide

/-- A run of characters is cut off where a text goes on with another one. -/
theorem takeWhile_dropWhile_append
    {p : Char → Bool} {run rest : List Char}
    (hrun : ∀ c ∈ run, p c = true) (hrest : ∀ c ∈ rest.head?, p c = false) :
    (run ++ rest).takeWhile p = run ∧ (run ++ rest).dropWhile p = rest := by
  rw [List.takeWhile_append_of_pos hrun, List.dropWhile_append_of_pos hrun]
  cases rest with
  | nil =>
      simp
  | cons d rest =>
      simp [hrest d (by simp)]

section Labels

variable {cs name label rest : List Char}

theorem readTicked_eq_some_iff :
    readTicked cs = some (name, rest) ↔
      cs = name ++ Name.tick :: rest ∧ Name.tick ∉ name := by
  induction cs generalizing name with
  | nil =>
      simp [readTicked]
  | cons c cs ih =>
      by_cases hc : c = Name.tick
      · subst hc
        cases name with
        | nil =>
            simp [readTicked]
        | cons d name =>
            simp only [readTicked, if_true, Option.some.injEq, Prod.mk.injEq, reduceCtorEq,
              false_and, List.cons_append, List.cons.injEq, List.mem_cons, not_or, false_iff]
            rintro ⟨⟨hd, -⟩, hne, -⟩
            exact hne hd
      · simp only [readTicked, hc, if_false, Option.map_eq_some_iff, Prod.mk.injEq, Prod.exists]
        constructor
        · rintro ⟨name', rest', hread, rfl, rfl⟩
          obtain ⟨rfl, htick⟩ := ih.1 hread
          exact ⟨rfl, by simp [htick, Ne.symm hc]⟩
        · rintro ⟨hcs, htick⟩
          cases name with
          | nil =>
              simp only [List.nil_append, List.cons.injEq] at hcs
              exact absurd hcs.1 hc
          | cons d name =>
              simp only [List.cons_append, List.cons.injEq] at hcs
              obtain ⟨rfl, rfl⟩ := hcs
              simp only [List.mem_cons, not_or] at htick
              exact ⟨name, rest, ih.2 ⟨rfl, htick.2⟩, rfl, rfl⟩

/-- A name of one or more characters between backticks is read as a label. -/
theorem readLabel_ticked
    (hname : name ≠ []) (htick : Name.tick ∉ name) (rest : List Char) :
    readLabel (Name.tick :: (name ++ Name.tick :: rest)) =
      some (Name.tick :: (name ++ [Name.tick]), rest) := by
  have hread : readTicked (name ++ Name.tick :: rest) = some (name, rest) :=
    readTicked_eq_some_iff.2 ⟨rfl, htick⟩
  cases name with
  | nil =>
      exact absurd rfl hname
  | cons d name =>
      rw [readLabel, if_pos rfl, hread]
      rfl

/-- A run of word characters is read as a label up to its end. -/
theorem readLabel_word
    (hne : label ≠ []) (hword : ∀ c ∈ label, Text.isWord c = true)
    (hrest : ∀ c ∈ rest.head?, Text.isWord c = false) :
    readLabel (label ++ rest) = some (label, rest) := by
  cases label with
  | nil =>
      exact absurd rfl hne
  | cons c label =>
      have hc : Text.isWord c = true := hword c (by simp)
      have hrun : ∀ d ∈ label, Text.isWord d = true := fun d hd => hword d (by simp [hd])
      have hnot : c ≠ Name.tick := by
        rintro rfl
        simp [isWord_tick] at hc
      obtain ⟨htake, hdrop⟩ := takeWhile_dropWhile_append hrun hrest
      simp [readLabel, hnot, hc, htake, hdrop]

/-- What is read as a label is a label, and stands at the head of the text. -/
theorem isLabel_of_readLabel
    (h : readLabel cs = some (label, rest)) :
    cs = label ++ rest ∧ IsLabel label := by
  cases cs with
  | nil =>
      simp [readLabel] at h
  | cons c cs =>
      by_cases hc : c = Name.tick
      · subst hc
        simp only [readLabel, if_true] at h
        split at h
        · rename_i d name rest' hread
          obtain ⟨rfl, htick⟩ := readTicked_eq_some_iff.1 hread
          simp only [Option.some.injEq, Prod.mk.injEq] at h
          obtain ⟨rfl, rfl⟩ := h
          exact ⟨by simp, Or.inl ⟨d :: name, by simp, htick, by simp⟩⟩
        · simp at h
      · simp only [readLabel, hc, if_false] at h
        split at h
        · rename_i hword
          simp only [Option.some.injEq, Prod.mk.injEq] at h
          obtain ⟨rfl, rfl⟩ := h
          refine ⟨by simp, Or.inr ⟨by simp, ?_⟩⟩
          intro d hd
          rcases List.mem_cons.1 hd with rfl | hd
          · exact hword
          · exact List.mem_takeWhile_imp hd
        · simp at h

/-- Behind a colon a label is read, and the further labels behind it. -/
theorem readLabels_colon_of_some
    (h : readLabel cs = some (label, rest)) :
    readLabels (':' :: cs) = (label :: (readLabels rest).1, (readLabels rest).2) := by
  rw [readLabels, if_pos rfl]
  split
  · rename_i label' rest' h'
    rw [h, Option.some.injEq, Prod.mk.injEq] at h'
    obtain ⟨rfl, rfl⟩ := h'
    rfl
  · rename_i h'
    rw [h] at h'
    cases h'

theorem readLabels_colon_of_none
    (h : readLabel cs = none) :
    readLabels (':' :: cs) = ([], ':' :: cs) := by
  rw [readLabels, if_pos rfl]
  split
  · rename_i label' rest' h'
    rw [h] at h'
    cases h'
  · rfl

theorem readLabels_of_ne_colon
    (h : cs.head? ≠ some ':') :
    readLabels cs = ([], cs) := by
  cases cs with
  | nil =>
      simp [readLabels]
  | cons c cs =>
      have hc : c ≠ ':' := by
        rintro rfl
        simp at h
      rw [readLabels, if_neg hc]

/--
The labels that are read stand one behind another in front of the rest, each is a
label, and the rest begins with no further one.
-/
theorem readLabels_spec (cs : List Char) :
    cs = labelRun (readLabels cs).1 ++ (readLabels cs).2 ∧
      readLabels (readLabels cs).2 = ([], (readLabels cs).2) ∧
      ∀ label ∈ (readLabels cs).1, IsLabel label := by
  induction hn : cs.length using Nat.strong_induction_on generalizing cs with
  | h n ih =>
      cases cs with
      | nil =>
          simp [readLabels]
      | cons c cs =>
          by_cases hc : c = ':'
          · subst hc
            cases hread : readLabel cs with
            | none =>
                rw [readLabels_colon_of_none hread]
                simp [readLabels_colon_of_none hread]
            | some found =>
                obtain ⟨label, rest⟩ := found
                obtain ⟨hcs, hlabel⟩ := isLabel_of_readLabel hread
                have hlength := length_readLabel hread
                obtain ⟨hrest, hstop, hlabels⟩ :=
                  ih rest.length (by simp at hn; omega) rest rfl
                rw [readLabels_colon_of_some hread]
                refine ⟨?_, hstop, ?_⟩
                · simp only [labelRun_cons, List.cons_append, List.append_assoc]
                  rw [← hrest, ← hcs]
                · intro other hother
                  rcases List.mem_cons.1 hother with rfl | hother
                  · exact hlabel
                  · exact hlabels other hother
          · have hhead : (c :: cs).head? ≠ some ':' := by simpa using hc
            rw [readLabels_of_ne_colon hhead]
            simp [readLabels_of_ne_colon hhead]

/-- Behind a colon where no further label is read, none can be read. -/
theorem readLabel_eq_none_of_stop
    (h : readLabels (':' :: cs) = ([], ':' :: cs)) :
    readLabel cs = none := by
  cases hread : readLabel cs with
  | none =>
      rfl
  | some found =>
      obtain ⟨label, rest⟩ := found
      rw [readLabels_colon_of_some hread] at h
      simp at h

end Labels

namespace Token

variable {cs : List Char} {token : Token}

/-- A token at the head of a text is an opening bracket, the variable and the labels read there. -/
theorem eq_of_atHead?
    (h : atHead? cs = some token) :
    token.before = [] ∧ token.labels ≠ [] ∧
      cs = '[' :: 'e' :: (labelRun token.labels ++ token.after) ∧
      readLabels (labelRun token.labels ++ token.after) = (token.labels, token.after) := by
  unfold atHead? at h
  split at h
  · rename_i cs'
    have hspec := (readLabels_spec cs').1
    split at h
    · simp at h
    · rename_i labels rest hne hread
      simp only [Option.some.injEq] at h
      subst h
      rw [hread] at hspec
      refine ⟨rfl, hne, by rw [hspec], ?_⟩
      rw [← hspec]
      exact hread
  · simp at h

/-- The token found in a text splits it, and its labels are read from there. -/
theorem find?_spec
    (h : find? cs = some token) :
    token.labels ≠ [] ∧
      cs = token.before ++ '[' :: 'e' :: (labelRun token.labels ++ token.after) ∧
      readLabels (labelRun token.labels ++ token.after) = (token.labels, token.after) := by
  induction cs generalizing token with
  | nil =>
      simp [find?] at h
  | cons c cs ih =>
      cases hhead : atHead? (c :: cs) with
      | some found =>
          simp only [find?, hhead, Option.some.injEq] at h
          subst h
          obtain ⟨hbefore, hlabels, hcs, hread⟩ := eq_of_atHead? hhead
          exact ⟨hlabels, by rw [hbefore, List.nil_append]; exact hcs, hread⟩
      | none =>
          simp only [find?, hhead, Option.map_eq_some_iff] at h
          obtain ⟨found, hfound, rfl⟩ := h
          obtain ⟨hlabels, hcs, hread⟩ := ih hfound
          exact ⟨hlabels, by simp [← hcs], hread⟩

/-- A token stands behind a part of the text without brackets, if one stands there at all. -/
theorem find?_append_of_not_mem
    {lead : List Char} (hlead : '[' ∉ lead) (hhead : atHead? cs = some token) :
    find? (lead ++ cs) = some { token with before := lead } := by
  obtain ⟨before, labels, after⟩ := token
  obtain rfl : before = [] := (eq_of_atHead? hhead).1
  induction lead with
  | nil =>
      cases cs with
      | nil =>
          cases hhead
      | cons c cs =>
          simp [find?, hhead]
  | cons c lead ih =>
      simp only [List.mem_cons, not_or] at hlead
      have hnone : atHead? (c :: (lead ++ cs)) = none := by
        unfold atHead?
        split
        · rename_i heq
          exact absurd (List.cons.inj heq).1.symm hlead.1
        · rfl
      simp [find?, hnone, ih hlead.2]

end Token

/-- A read stays as it is, or has the labels of its first token written as alternatives. -/
theorem expand_relaxed_cases (s : Statement) :
    expand .relaxed s = .ok [s] ∨
      ∃ token, Token.find? s.query.toList = some token ∧
        expand .relaxed s = .ok [{ s with
          query := String.ofList (token.replaced (':' :: alternation token.labels)) }] := by
  cases hfind : Token.find? s.query.toList with
  | none =>
      simp [expand, hfind]
  | some token =>
      by_cases hone : token.labels.length = 1
      · simp [expand, hfind, hone]
      · exact Or.inr ⟨token, rfl, by simp [expand, hfind, hone]⟩

end EdgeType
end CypherBatch
