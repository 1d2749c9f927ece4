import CypherBatch.Proofs.PatternTexts

/-!
# Placeholders outside of quoted names

A reader of a text that skips quoted names is a machine with three places: outside
of a name, inside one, and behind a backtick inside one.  That backtick closes the
name unless another one follows.  A placeholder occurs in a text if it stands at a
point that the machine does not reach inside a name.

`Scans` says which placeholders a piece of a text adds, whatever follows it, and
where the machine is before and behind it.  Pieces are put together by their places
alone: a quoted name is entered from outside, and what follows it must not begin
with a backtick.  So the machine is outside again behind each name, whatever
characters the name is made of.
-/

namespace CypherBatch
namespace Placeholder

/-- Where a reader of a text is. -/
inductive Place where
  | outside
  | inside
  | closing
deriving DecidableEq

namespace Place

/-- The place behind a character. -/
def next : Place → Char → Place
  | outside, c => if c = Name.tick then inside else outside
  | inside, c => if c = Name.tick then closing else inside
  | closing, c => if c = Name.tick then inside else outside

/-- Behind a backtick that is not doubled the reader is no longer in a name. -/
def Clear (place : Place) : Prop :=
  place ≠ inside

def Outside (place : Place) : Prop :=
  place = outside

theorem clear_of_outside {place : Place} (h : place.Outside) : place.Clear := by
  rw [Outside] at h
  subst h
  exact Place.noConfusion

end Place

open Place

/-- Does the target stand in the text where the reader is not in a name? -/
def occursFrom (target : List Char) : Place → List Char → Bool
  | _, [] => false
  | place, c :: cs =>
      (place ≠ inside && target.isPrefixOf (c :: cs)) || occursFrom target (place.next c) cs

/-- The placeholder of a facet, as it stands in a text. -/
def target (facet : Facet) : List Char :=
  (Pattern.placeholder facet.paramName).toList

/-- Does the placeholder of the facet occur outside of the quoted names of a text? -/
def occurs (facet : Facet) (text : String) : Bool :=
  occursFrom (target facet) outside text.toList

/-- Is this neither a brace nor a backtick? -/
def IsPlain (c : Char) : Prop :=
  c ≠ '\x7b' ∧ c ≠ Name.tick

section Steps

variable {facet : Facet} {place : Place} {c : Char}

theorem target_eq (facet : Facet) :
    target facet = '\x7b' :: (facet.paramName.toList ++ ['\x7d']) := by
  simp [target, Pattern.placeholder]

/-- A placeholder begins with a brace. -/
theorem occursFrom_cons_of_ne (hc : c ≠ '\x7b') (cs : List Char) :
    occursFrom (target facet) place (c :: cs) = occursFrom (target facet) (place.next c) cs := by
  rw [occursFrom, target_eq, List.isPrefixOf_cons_cons]
  simp [Ne.symm hc]

theorem occursFrom_inside_cons (cs : List Char) :
    occursFrom (target facet) inside (c :: cs) =
      occursFrom (target facet) (inside.next c) cs := by
  simp [occursFrom]

theorem next_of_clear (hplace : place.Clear) (hc : c ≠ Name.tick) :
    place.next c = outside := by
  cases place with
  | inside =>
      exact absurd rfl hplace
  | outside | closing =>
      simp [Place.next, hc]

end Steps

/--
From a place of the first kind, the reader gets to one of the second kind behind the
text, and finds the placeholders of the given facets on its way, whatever follows.
-/
def Scans (P : Place → Prop) (text : List Char) (Q : Place → Prop) (facets : List Facet) : Prop :=
  ∀ place, P place → ∃ behind, Q behind ∧ ∀ facet rest,
    occursFrom (target facet) place (text ++ rest) = true ↔
      facet ∈ facets ∨ occursFrom (target facet) behind rest = true

namespace Scans

variable {P Q R : Place → Prop} {text more : List Char} {facets others : List Facet}

theorem nil (P : Place → Prop) : Scans P [] P [] :=
  fun place hplace => ⟨place, hplace, by simp⟩

theorem append (h : Scans P text Q facets) (h' : Scans Q more R others) :
    Scans P (text ++ more) R (facets ++ others) := by
  intro place hplace
  obtain ⟨behind, hbehind, htext⟩ := h place hplace
  obtain ⟨last, hlast, hmore⟩ := h' behind hbehind
  refine ⟨last, hlast, fun facet rest => ?_⟩
  rw [List.append_assoc, htext, hmore, List.mem_append, or_assoc]

theorem mono (h : Scans P text Q facets) (hQ : ∀ place, Q place → R place) :
    Scans P text R facets := by
  intro place hplace
  obtain ⟨behind, hbehind, htext⟩ := h place hplace
  exact ⟨behind, hQ behind hbehind, htext⟩

theorem to_clear (h : Scans P text Outside facets) : Scans P text Clear facets :=
  h.mono fun _ => clear_of_outside

theorem followed (h : Scans P text Outside facets) (h' : Scans Clear more R others) :
    Scans P (text ++ more) R (facets ++ others) :=
  h.to_clear.append h'

theorem from_outside (h : Scans Clear text Q facets) : Scans Outside text Q facets :=
  fun place hplace => h place (clear_of_outside hplace)

theorem congr (h : Scans P text Q facets) (hfacets : ∀ facet, facet ∈ facets ↔ facet ∈ others) :
    Scans P text Q others := by
  intro place hplace
  obtain ⟨behind, hbehind, htext⟩ := h place hplace
  exact ⟨behind, hbehind, fun facet rest => by rw [htext, hfacets]⟩

/-- Characters that are neither braces nor backticks leave the reader outside. -/
theorem of_plain (h : ∀ c ∈ text, IsPlain c) : Scans Outside text Outside [] := by
  intro place hplace
  refine ⟨place, hplace, fun facet rest => ?_⟩
  obtain rfl : place = outside := hplace
  induction text with
  | nil =>
      simp
  | cons c text ih =>
      obtain ⟨hbrace, htick⟩ := h c (by simp)
      rw [List.cons_append, occursFrom_cons_of_ne hbrace,
        next_of_clear (clear_of_outside rfl) htick, ih fun d hd => h d (by simp [hd])]

/-- One such character leads outside from behind a name. -/
theorem of_plain_cons {c : Char} (h : ∀ d ∈ c :: text, IsPlain d) :
    Scans Clear (c :: text) Outside [] := by
  intro place hplace
  obtain ⟨hbrace, htick⟩ := h c (by simp)
  have hrest : ∀ d ∈ text, IsPlain d := fun d hd => h d (by simp [hd])
  obtain ⟨behind, hbehind, htext⟩ := of_plain hrest outside rfl
  refine ⟨behind, hbehind, fun facet rest => ?_⟩
  rw [List.cons_append, occursFrom_cons_of_ne hbrace, next_of_clear hplace htick, htext]

/-- A doubled character of a name leaves the reader inside. -/
theorem occursFrom_doubled (facet : Facet) (name rest : List Char) :
    occursFrom (target facet) inside (name.flatMap Name.doubled ++ rest) =
      occursFrom (target facet) inside rest := by
  induction name with
  | nil =>
      rfl
  | cons c name ih =>
      by_cases hc : c = Name.tick
      · subst hc
        have hbrace : Name.tick ≠ '\x7b' := by decide
        have hdoubled : Name.doubled Name.tick = [Name.tick, Name.tick] := by simp [Name.doubled]
        rw [List.flatMap_cons, hdoubled, List.append_assoc, List.cons_append, List.cons_append,
          List.nil_append, occursFrom_inside_cons, Place.next, if_pos rfl,
          occursFrom_cons_of_ne hbrace, Place.next, if_pos rfl, ih]
      · have hdoubled : Name.doubled c = [c] := by simp [Name.doubled, hc]
        rw [List.flatMap_cons, hdoubled, List.append_assoc, List.singleton_append,
          occursFrom_inside_cons, Place.next, if_neg hc, ih]

/-- A written name is skipped, whatever characters it is made of. -/
theorem of_quoted (name : List Char) : Scans Outside (Name.quotedChars name) Clear [] := by
  cases hplain : Name.isPlain name with
  | true =>
      have hchars : ∀ c ∈ Name.quotedChars name, IsPlain c := by
        intro c hc
        rw [Name.quotedChars_of_isPlain hplain] at hc
        constructor
        · rintro rfl
          exact Name.not_mem_of_isPlain hplain (by decide) (by decide) hc
        · rintro rfl
          exact Name.not_mem_of_isPlain hplain (by decide) (by decide) hc
      exact (of_plain hchars).to_clear
  | false =>
      intro place hplace
      obtain rfl : place = outside := hplace
      refine ⟨closing, Place.noConfusion, fun facet rest => ?_⟩
      have hbrace : Name.tick ≠ '\x7b' := by decide
      rw [Name.quotedChars_of_not_isPlain hplain, List.cons_append, List.append_assoc,
        occursFrom_cons_of_ne hbrace, Place.next, if_pos rfl, occursFrom_doubled,
        List.singleton_append, occursFrom_inside_cons, Place.next, if_pos rfl]
      simp

theorem isPlain_paramName (facet : Facet) :
    ∀ c ∈ facet.paramName.toList ++ ['\x7d'], IsPlain c := by
  cases facet <;> simp [Facet.paramName, IsPlain, Name.tick]

/-- No placeholder is the beginning of another one. -/
theorem target_isPrefixOf (f g : Facet) (rest : List Char) :
    (target f).isPrefixOf (target g ++ rest) = true ↔ f = g := by
  cases f <;> cases g <;> simp [target_eq, Facet.paramName, List.isPrefixOf]

theorem of_target (facet : Facet) : Scans Clear (target facet) Outside [facet] := by
  intro place hplace
  obtain ⟨behind, hbehind, htext⟩ := of_plain (isPlain_paramName facet) outside rfl
  refine ⟨behind, hbehind, fun other rest => ?_⟩
  have hprefix := target_isPrefixOf other facet rest
  rw [target_eq facet, List.cons_append] at hprefix ⊢
  rw [occursFrom, Bool.or_eq_true, Bool.and_eq_true, decide_eq_true_eq, hprefix,
    next_of_clear hplace (by decide), htext]
  simp [show place ≠ inside from hplace]

/-- A brace with a key and a colon behind it begins no placeholder. -/
theorem target_isPrefixOf_brace (facet : Facet) (key rest : List Char) :
    (target facet).isPrefixOf ('\x7b' :: (Name.quotedChars key ++ [':'] ++ rest)) = false := by
  refine Bool.eq_false_of_not_eq_true fun hprefix => ?_
  rw [target_eq, List.isPrefixOf_iff_prefix, List.cons_prefix_cons] at hprefix
  obtain ⟨-, z, hz⟩ := hprefix
  cases hplain : Name.isPlain key with
  | true =>
      have hbrace : '\x7d' ∉ key := Name.not_mem_of_isPlain hplain (by decide) (by decide)
      have hcolon : ':' ∉ facet.paramName.toList := by
        cases facet <;> simp [Facet.paramName]
      rw [Name.quotedChars_of_isPlain hplain, List.append_assoc, List.append_assoc] at hz
      rcases List.append_eq_append_iff.1 hz with ⟨m, rfl, hm⟩ | ⟨m, hname, hm⟩
      · cases m with
        | nil =>
            simp at hm
        | cons c m =>
            obtain ⟨rfl, -⟩ := List.cons.inj hm
            simp at hbrace
      · cases m with
        | nil =>
            simp at hm
        | cons c m =>
            obtain ⟨rfl, -⟩ := List.cons.inj hm
            simp [hname] at hcolon
  | false =>
      rw [Name.quotedChars_of_not_isPlain hplain] at hz
      cases facet <;> simp [Facet.paramName, Name.tick] at hz

theorem of_brace (key : List Char) :
    Scans Clear ('\x7b' :: (Name.quotedChars key ++ [':'])) Outside [] := by
  have hcolon : Scans Clear [':'] Outside [] :=
    of_plain_cons (by simp [IsPlain, Name.tick])
  intro place hplace
  obtain ⟨behind, hbehind, htext⟩ := (of_quoted key).append hcolon outside rfl
  refine ⟨behind, hbehind, fun facet rest => ?_⟩
  have hprefix := target_isPrefixOf_brace facet key rest
  simp only [List.cons_append, List.append_assoc, List.nil_append] at hprefix htext ⊢
  rw [occursFrom, hprefix, next_of_clear hplace (by decide), Bool.and_false, Bool.false_or, htext]

end Scans

end Placeholder
end CypherBatch
