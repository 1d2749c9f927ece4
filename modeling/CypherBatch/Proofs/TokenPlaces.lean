import CypherBatch.Proofs.EdgeTokens

/-!
# The place of an edge token

A text consists of a lead, the bracket of an edge with its types, and a tail that
has neither brackets nor backticks.  A token is found in it, and for each of its
labels the text is copied with that label alone.

If the copies are those of the types, two or more, then the token stands behind
the lead and its labels are the types.  A token that begins elsewhere leaves a copy
that no single type gives.  The proof compares the lengths of the copies with that
of the text, and then the characters around the place where the token begins.
-/

namespace CypherBatch
namespace EdgeType

/-- A text with the bracket of an edge in it. -/
def bracketed (lead : List Char) (labels : List (List Char)) (tail : List Char) : List Char :=
  lead ++ '[' :: 'e' :: (labelRun labels ++ tail)

/-- What a text may go on with behind the types of its edge. -/
structure IsTail (tail : List Char) : Prop where
  head : tail.head? = some ' '
  noTick : Name.tick ∉ tail
  noBracket : '[' ∉ tail

theorem replaced_colon (token : Token) (label : List Char) :
    token.replaced (':' :: label) = bracketed token.before [label] token.after := by
  simp [Token.replaced, bracketed]

section Lengths

variable {before after lead tail : List Char} {labels types : List (List Char)}

theorem length_labelRun (labels : List (List Char)) :
    (labelRun labels).length = (labels.map List.length).sum + labels.length := by
  induction labels with
  | nil =>
      rfl
  | cons label labels ih =>
      simp only [labelRun_cons, List.length_cons, List.length_append, List.map_cons,
        List.sum_cons, ih]
      omega

theorem length_bracketed :
    (bracketed lead labels tail).length =
      lead.length + 2 + (labels.map List.length).sum + labels.length + tail.length := by
  simp only [bracketed, List.length_append, List.length_cons, length_labelRun]
  omega

theorem sum_map_length_bracketed_singleton (labels : List (List Char)) :
    (labels.map fun label => (bracketed lead [label] tail).length).sum =
      (labels.map List.length).sum + labels.length * (lead.length + 3 + tail.length) := by
  induction labels with
  | nil =>
      simp
  | cons label labels ih =>
      rw [List.map_cons, List.sum_cons, ih, length_bracketed]
      simp only [List.map_cons, List.map_nil, List.sum_cons, List.sum_nil, List.length_cons,
        List.length_nil]
      ring

/--
When the copies of a text are those of its types, the parts around the token that
was found and around the bracket of the edge are of one length.
-/
theorem length_add_length_eq
    (htext : bracketed before labels after = bracketed lead types tail)
    (hcopies : (labels.map fun label => bracketed before [label] after) =
      types.map fun type => bracketed lead [type] tail)
    (htwo : 2 ≤ types.length) :
    before.length + after.length = lead.length + tail.length := by
  have hcount : labels.length = types.length := by
    simpa using congrArg List.length hcopies
  have htotal := congrArg List.length htext
  rw [length_bracketed, length_bracketed, hcount] at htotal
  have hsum := congrArg (fun copies => (copies.map List.length).sum) hcopies
  simp only [List.map_map, Function.comp_def, sum_map_length_bracketed_singleton, hcount] at hsum
  -- each copy is off by the same length, and the whole text by that length once
  have hprod : (types.length - 1) * (before.length + after.length) =
      (types.length - 1) * (lead.length + tail.length) := by
    obtain ⟨n, hn⟩ : ∃ n, types.length = n + 1 := ⟨types.length - 1, by omega⟩
    rw [hn] at hsum htotal ⊢
    simp only [Nat.add_sub_cancel]
    nlinarith
  exact Nat.eq_of_mul_eq_mul_left (by omega) hprod

end Lengths

theorem bracketed_singleton (lead label tail : List Char) :
    bracketed lead [label] tail = lead ++ ('[' :: 'e' :: ':' :: label ++ tail) := by
  simp [bracketed]

section Shifts

variable {before after lead tail label type m w : List Char}

/--
A text is split in three in two ways, and the first way begins as much earlier as it
ends earlier.
-/
theorem shift_of_length_lt
    {a b c d x y : List Char}
    (htext : a ++ (x ++ c) = b ++ (y ++ d))
    (hlength : a.length + c.length = b.length + d.length)
    (hlt : a.length < b.length) :
    ∃ m w, b = a ++ m ∧ c = w ++ d ∧ m ≠ [] ∧ m.length = w.length ∧ x ++ w = m ++ y := by
  rcases List.append_eq_append_iff.1 htext with ⟨m, hb, hrest⟩ | ⟨m, ha, -⟩
  · have hm : b.length = a.length + m.length := by simp [hb]
    rw [← List.append_assoc] at hrest
    rcases List.append_eq_append_iff.1 hrest with ⟨w, hxy, hc⟩ | ⟨w, -, hd⟩
    · have hw : c.length = w.length + d.length := by simp [hc]
      refine ⟨m, w, hb, hc, ?_, by omega, hxy.symm⟩
      rintro rfl
      simp at hm
      omega
    · have hw : d.length = w.length + c.length := by simp [hd]
      omega
  · have hm : a.length = b.length + m.length := by simp [ha]
    omega

theorem isWord_space : Text.isWord ' ' = false := by
  decide

/-- No end of a token is the beginning of a tail. -/
theorem not_suffix_of_isLabel
    (hlabel : IsLabel label) (htail : IsTail (w ++ after)) (hne : w ≠ []) :
    ¬ w <:+ '[' :: 'e' :: ':' :: label := by
  obtain ⟨d, w', rfl⟩ := List.exists_cons_of_ne_nil hne
  obtain rfl : d = ' ' := by simpa using htail.head
  intro hsuffix
  have hspace : (' ' :: w') <:+ label := by
    rcases List.suffix_cons_iff.1 hsuffix with heq | hsuffix
    · simp at heq
    rcases List.suffix_cons_iff.1 hsuffix with heq | hsuffix
    · simp at heq
    rcases List.suffix_cons_iff.1 hsuffix with heq | hsuffix
    · simp at heq
    · exact hsuffix
  rcases hlabel with ⟨name, -, -, rfl⟩ | ⟨-, hword⟩
  · -- a name between backticks ends in one, and a tail has none
    have hlast : (' ' :: w').getLast hne = Name.tick := by
      rw [hspace.getLast hne]
      simp
    refine htail.noTick (List.mem_append_left _ ?_)
    rw [← hlast]
    exact List.getLast_mem hne
  · have hword := hword ' ' (hspace.subset (by simp))
    simp [isWord_space] at hword

/-- The token does not begin behind the lead. -/
theorem not_length_lead_lt
    (hcopy : bracketed before [label] after = bracketed lead [type] tail)
    (hlength : before.length + after.length = lead.length + tail.length)
    (hlabel : IsLabel label) (htail : IsTail tail) :
    ¬ lead.length < before.length := by
  intro hlt
  rw [bracketed_singleton, bracketed_singleton] at hcopy
  obtain ⟨m, w, -, rfl, hm, hmw, hshift⟩ :=
    shift_of_length_lt hcopy.symm hlength.symm hlt
  have hne : w ≠ [] := by
    rintro rfl
    exact hm (by simpa using hmw)
  rcases List.suffix_or_suffix_of_suffix (List.suffix_append _ w)
      (hshift ▸ List.suffix_append m _) with hw | hw
  · exact not_suffix_of_isLabel hlabel htail hne hw
  · exact htail.noBracket (List.mem_append_left _ (hw.subset (by simp)))

theorem ne_nil_of_isLabel (h : IsLabel label) : label ≠ [] := by
  rcases h with ⟨name, -, -, rfl⟩ | ⟨hne, -⟩
  · simp
  · exact hne

/-- The head of a label is a backtick or a word character. -/
theorem head_of_isLabel
    {c : Char} {cs : List Char}
    (h : IsLabel (c :: cs)) :
    (∃ name, name ≠ [] ∧ Name.tick ∉ name ∧ c = Name.tick ∧ cs = name ++ [Name.tick]) ∨
      Text.isWord c = true := by
  rcases h with ⟨name, hne, htick, hcs⟩ | ⟨-, hword⟩
  · obtain ⟨rfl, rfl⟩ := List.cons.inj hcs
    exact Or.inl ⟨name, hne, htick, rfl, rfl⟩
  · exact Or.inr (hword c (by simp))

theorem not_isWord_of_readLabel
    {c : Char} {cs : List Char}
    (h : readLabel (c :: cs) = none) :
    Text.isWord c = false := by
  refine Bool.eq_false_of_not_eq_true fun hword => ?_
  have hc : c ≠ Name.tick := by
    rintro rfl
    simp [isWord_tick] at hword
  simp [readLabel, hc, hword] at h

/--
A name between backticks that would be read across the next label, where no label is
read, goes up to the colon in front of that label.
-/
theorem eq_of_overlap
    {name x y : List Char}
    (hstop : readLabel (Name.tick :: (w ++ tail)) = none)
    (hne : name ≠ []) (htick : Name.tick ∉ name)
    (hrest : name ++ Name.tick :: x = w ++ ':' :: (type ++ y))
    (hlength : name.length < type.length)
    (hquoted : Name.tick ∈ type → ∃ body, type = Name.tick :: (body ++ [Name.tick])) :
    Name.tick ∉ w ∧ name = w ++ [':'] := by
  have hw : Name.tick ∉ w := by
    intro hmem
    obtain ⟨n, r, rfl, hn⟩ := List.eq_append_cons_of_mem hmem
    have hread := readTicked_eq_some_iff.2 ⟨hrest.symm, htick⟩
    have hread' : readTicked (n ++ Name.tick :: r ++ ':' :: (type ++ y)) =
        some (n, r ++ ':' :: (type ++ y)) :=
      readTicked_eq_some_iff.2 ⟨by simp, hn⟩
    obtain ⟨rfl, -⟩ := Prod.mk.inj (Option.some.inj (hread.symm.trans hread'))
    have hlabel := readLabel_ticked hne htick (r ++ tail)
    simp only [List.append_assoc, List.cons_append] at hstop
    rw [hlabel] at hstop
    cases hstop
  refine ⟨hw, ?_⟩
  rcases List.append_eq_append_iff.1 hrest with ⟨z, rfl, hz⟩ | ⟨z, rfl, hz⟩
  · cases z with
    | nil =>
        exact absurd (List.cons.inj hz).1 (by decide)
    | cons c z =>
        obtain ⟨rfl, -⟩ := List.cons.inj hz
        simp at hw
  · cases z with
    | nil =>
        exact absurd (List.cons.inj hz).1 (by decide)
    | cons c z =>
        obtain ⟨rfl, hz'⟩ := List.cons.inj hz
        simp only [List.length_append, List.length_cons] at hlength
        simp only [List.mem_append, List.mem_cons, not_or] at htick
        rcases List.append_eq_append_iff.1 hz' with ⟨u, rfl, -⟩ | ⟨u, rfl, hu⟩
        · simp only [List.length_append] at hlength
          omega
        · -- the label reaches into the next one, which is therefore between backticks too
          cases u with
          | nil =>
              simp only [List.append_nil] at hlength
              omega
          | cons c u =>
              obtain ⟨rfl, -⟩ := List.cons.inj hu
              obtain ⟨body, hbody⟩ := hquoted (by simp)
              cases z with
              | nil =>
                  rfl
              | cons d z =>
                  obtain ⟨rfl, -⟩ := List.cons.inj hbody
                  simp at htick

/--
The token does not begin in the lead, if there are two labels: the text behind it
would go on with another label.
-/
theorem not_length_before_lt
    {next type' : List Char} {labels types : List (List Char)}
    (htext : bracketed before (label :: next :: labels) after =
      bracketed lead (type :: type' :: types) tail)
    (hcopy : bracketed before [label] after = bracketed lead [type] tail)
    (hcopy' : bracketed before [next] after = bracketed lead [type'] tail)
    (hlength : before.length + after.length = lead.length + tail.length)
    (hnext : IsLabel next) (hstop : readLabels after = ([], after))
    (hquoted : Name.tick ∈ type' → ∃ body, type' = Name.tick :: (body ++ [Name.tick])) :
    ¬ before.length < lead.length := by
  intro hlt
  rw [bracketed_singleton, bracketed_singleton] at hcopy hcopy'
  obtain ⟨m, w, rfl, rfl, hm, hmw, hshift⟩ := shift_of_length_lt hcopy hlength hlt
  have hshift' : '[' :: 'e' :: ':' :: next ++ w = m ++ '[' :: 'e' :: ':' :: type' := by
    refine (List.append_left_inj tail).1 ?_
    simpa only [List.append_assoc, List.append_right_inj] using hcopy'
  have hrest : ':' :: (next ++ (labelRun labels ++ w)) =
      w ++ ':' :: (type' ++ labelRun types) := by
    have h : '[' :: 'e' :: ':' :: label ++ ':' :: (next ++ (labelRun labels ++ w)) =
        ('[' :: 'e' :: ':' :: label ++ w) ++ ':' :: (type' ++ labelRun types) := by
      rw [hshift]
      refine (List.append_left_inj tail).1 ?_
      simpa [bracketed] using htext
    rw [List.append_assoc] at h
    exact List.append_cancel_left h
  have hlabelLength : next.length = type'.length := by
    have h := congrArg List.length hshift'
    simp only [List.length_append, List.length_cons] at h
    omega
  match w, hmw with
  | [], hmw =>
      exact hm (by simpa using hmw)
  | [c], hmw =>
      obtain ⟨d, rfl⟩ := List.length_eq_one_iff.1 hmw
      simp at hshift
  | c :: d :: w, hmw =>
      obtain ⟨rfl, hrest'⟩ := List.cons.inj hrest
      have hnone : readLabel (d :: (w ++ tail)) = none := readLabel_eq_none_of_stop hstop
      obtain ⟨d', next', rfl⟩ := List.exists_cons_of_ne_nil (ne_nil_of_isLabel hnext)
      obtain ⟨rfl, hoverlap⟩ := List.cons.inj hrest'
      rcases head_of_isLabel hnext with ⟨name, hne, htick, rfl, rfl⟩ | hword
      · simp only [List.length_append, List.length_cons, List.length_nil] at hlabelLength
        obtain ⟨hw, rfl⟩ :=
          eq_of_overlap hnone hne htick (by simpa using hoverlap) (by omega) hquoted
        simp only [List.length_append, List.length_cons, List.length_nil] at hlabelLength hmw
        -- the next type is what the next label ends in and what follows it
        have hends : ('[' :: 'e' :: ':' :: Name.tick :: (w ++ [':'])) ++
            Name.tick :: ':' :: Name.tick :: w = (m ++ ['[', 'e', ':']) ++ type' := by
          simpa using hshift'
        obtain ⟨hstart, htype⟩ := List.append_inj' hends (by
          simp only [List.length_cons]
          omega)
        obtain ⟨body, hbody⟩ := hquoted (by simp [← htype])
        rcases List.eq_nil_or_concat w with rfl | ⟨w', c, rfl⟩
        · obtain ⟨c, d, rfl⟩ := List.length_eq_two.1 hmw
          simp at hstart
        · have hlast := congrArg List.getLast? (htype.trans hbody)
          simp only [List.concat_eq_append, ← List.cons_append, List.getLast?_append,
            List.getLast?_singleton, Option.some_or, Option.some.injEq] at hlast
          simp [hlast] at hw
      · simp [not_isWord_of_readLabel hnone] at hword

end Shifts

section Places

variable {before after lead tail : List Char} {labels types : List (List Char)}

/-- Copies that are those of two or more types are made at the bracket of the edge. -/
theorem eq_of_copies
    (htwo : 2 ≤ types.length)
    (htext : bracketed before labels after = bracketed lead types tail)
    (hcopies : (labels.map fun label => bracketed before [label] after) =
      types.map fun type => bracketed lead [type] tail)
    (hread : readLabels (labelRun labels ++ after) = (labels, after))
    (htail : IsTail tail)
    (hquoted : ∀ type ∈ types, Name.tick ∈ type →
      ∃ body, type = Name.tick :: (body ++ [Name.tick])) :
    before = lead ∧ labels = types := by
  have hlength := length_add_length_eq htext hcopies htwo
  obtain ⟨-, hstop, hlabels⟩ := readLabels_spec (labelRun labels ++ after)
  rw [hread] at hstop hlabels
  match types, htwo with
  | type :: type' :: types, _ =>
      match labels, hcopies with
      | [label], hcopies =>
          simp at hcopies
      | label :: label' :: labels, hcopies =>
          simp only [List.map_cons, List.cons.injEq] at hcopies
          obtain ⟨hcopy, hcopy', hcopies⟩ := hcopies
          have hlead : before = lead := by
            have hge := not_length_lead_lt hcopy hlength (hlabels label (by simp)) htail
            have hle := not_length_before_lt htext hcopy hcopy' hlength
              (hlabels label' (by simp)) hstop (hquoted type' (by simp))
            rw [bracketed_singleton, bracketed_singleton] at hcopy
            exact (List.append_inj hcopy (by omega)).1
          have hafter : after = tail := by
            rw [bracketed_singleton, bracketed_singleton, ← List.append_assoc,
              ← List.append_assoc] at hcopy
            exact (List.append_inj' hcopy (by rw [hlead] at hlength; omega)).2
          refine ⟨hlead, ?_⟩
          subst hlead hafter
          have hinj : Function.Injective fun label : List Char =>
              bracketed before [label] after := by
            intro x y hxy
            simpa [bracketed] using hxy
          exact List.map_injective_iff.2 hinj (by simp [hcopy, hcopy', hcopies])

end Places

end EdgeType
end CypherBatch
