import CypherBatch.Proofs.Escapes

/-!
# Values told apart by their texts

A value is written as a word or number, or as something that is opened and closed by marks:
a string, a list or a map.  No word or number has a mark in it, and whatever follows a
written value begins with one.  So the first character tells which of the four it is, and
where the value ends can be read off the text: the written items of a list and the written
fields of a map are the same only one by one.

What is left open are words and numbers themselves, where two floating-point numbers may in
principle have one text.
-/

namespace CypherBatch

namespace Value

/-- Is this written as a word or a number? -/
def isAtom : Value → Bool
  | .null | .bool _ | .int _ | .float _ => true
  | .str _ | .list _ | .map _ => false

/-- What holds of atoms and strings, and of lists and maps whose parts it holds of. -/
@[elab_as_elim] theorem treeInduction
    {motive : Value → Prop}
    (atom : ∀ v, v.isAtom = true → motive v)
    (str : ∀ s, motive (.str s))
    (list : ∀ items : List Value, (∀ v ∈ items, motive v) → motive (.list items))
    (map : ∀ fields : PropertyMap, (∀ field ∈ fields, motive field.2) → motive (.map fields)) :
    ∀ v, motive v
  | .null | .bool _ | .int _ | .float _ => atom _ rfl
  | .str s => str s
  | .list items => list items fun v _ => treeInduction atom str list map v
  | .map fields => map fields fun field _ => treeInduction atom str list map field.2
termination_by v => sizeOf v
decreasing_by
  · rename_i hitem
    have hlt := List.sizeOf_lt_of_mem hitem
    simp only [Value.list.sizeOf_spec]
    omega
  · rename_i hfield
    obtain ⟨key, v⟩ := field
    have hlt := List.sizeOf_lt_of_mem hfield
    simp only [Prod.mk.sizeOf_spec] at hlt
    simp only [Value.map.sizeOf_spec]
    omega

end Value

namespace Json

section Marks

/-- The characters that open, close and separate. -/
def isMark (c : Char) : Bool :=
  c ∈ [',', ':', '"', '[', ']', '\x7b', '\x7d']

def Unmarked (cs : List Char) : Prop :=
  ∀ c ∈ cs, isMark c = false

instance (cs : List Char) : Decidable (Unmarked cs) :=
  List.decidableBAll (fun c => isMark c = false) cs

/-- Is a text empty, or does it begin with a mark? -/
def Closed : List Char → Prop
  | [] => True
  | c :: _ => isMark c = true

theorem closed_nil : Closed [] :=
  trivial

@[simp] theorem unmarked_nil : Unmarked [] := by
  simp [Unmarked]

@[simp] theorem unmarked_cons_iff {c : Char} {cs : List Char} :
    Unmarked (c :: cs) ↔ isMark c = false ∧ Unmarked cs := by
  simp [Unmarked]

@[simp] theorem unmarked_append_iff {cs ds : List Char} :
    Unmarked (cs ++ ds) ↔ Unmarked cs ∧ Unmarked ds := by
  simp [Unmarked, or_imp, forall_and]

/-- A text without marks is told from what follows it. -/
theorem append_inj_of_unmarked
    {cs ds rest rest' : List Char} (hcs : Unmarked cs) (hds : Unmarked ds)
    (hrest : Closed rest) (hrest' : Closed rest') (h : cs ++ rest = ds ++ rest') :
    cs = ds ∧ rest = rest' := by
  induction cs generalizing ds with
  | nil =>
      cases ds with
      | nil =>
          exact ⟨rfl, h⟩
      | cons d ds =>
          rw [List.nil_append] at h
          rw [h] at hrest
          exact absurd hrest (by simp [Closed, (unmarked_cons_iff.1 hds).1])
  | cons c cs ih =>
      rw [unmarked_cons_iff] at hcs
      cases ds with
      | nil =>
          rw [List.nil_append] at h
          rw [← h] at hrest'
          exact absurd hrest' (by simp [Closed, hcs.1])
      | cons d ds =>
          rw [List.cons_append, List.cons_append, List.cons.injEq] at h
          obtain ⟨rfl, h⟩ := h
          obtain ⟨rfl, hsame⟩ := ih hcs.2 (unmarked_cons_iff.1 hds).2 h
          exact ⟨rfl, hsame⟩

end Marks

section Atoms

theorem isMark_of_isDigit {c : Char} (h : c.isDigit = true) : isMark c = false := by
  by_contra hmark
  simp only [isMark, List.mem_cons, List.not_mem_nil, or_false, decide_eq_true_eq,
    Bool.not_eq_false] at hmark
  rcases hmark with rfl | rfl | rfl | rfl | rfl | rfl | rfl <;> cases h

theorem unmarked_toDigits (n : Nat) : Unmarked (Nat.toDigits 10 n) := fun _ hc =>
  isMark_of_isDigit (Nat.isDigit_of_mem_toDigits (by decide) (by decide) hc)

theorem unmarked_replicate {c : Char} (h : isMark c = false) (n : Nat) :
    Unmarked (List.replicate n c) := by
  intro d hd
  rwa [List.eq_of_mem_replicate hd]

theorem unmarked_paddedText (width n : Nat) : Unmarked (Decimal.paddedText width n).toList := by
  rw [Decimal.paddedText, String.toList_ofList, unmarked_append_iff]
  exact ⟨unmarked_replicate (by decide) _, unmarked_toDigits n⟩

theorem unmarked_plainText {digits : List Char} (h : Unmarked digits) (leading : Int) :
    Unmarked (Decimal.plainText digits leading) := by
  have hzeros (n : Nat) : Unmarked (List.replicate n '0') := unmarked_replicate (by decide) n
  unfold Decimal.plainText
  split
  · simp only [unmarked_cons_iff, unmarked_append_iff]
    exact ⟨by decide, by decide, hzeros _, h⟩
  · dsimp only
    split
    · simp only [unmarked_append_iff, unmarked_cons_iff]
      exact ⟨⟨h, hzeros _⟩, by decide, by decide, unmarked_nil⟩
    · simp only [unmarked_append_iff, unmarked_cons_iff]
      exact ⟨fun c hc => h c (List.mem_of_mem_take hc), by decide,
        fun c hc => h c (List.mem_of_mem_drop hc)⟩

theorem unmarked_scientificText {digits : List Char} (h : Unmarked digits) (width : Nat)
    (leading : Int) :
    Unmarked (Decimal.scientificText width digits leading) := by
  have hexponent := unmarked_paddedText width leading.natAbs
  unfold Decimal.scientificText
  simp only [unmarked_append_iff, unmarked_cons_iff]
  refine ⟨?_, by decide, by split <;> decide, hexponent⟩
  split
  · exact unmarked_nil
  · exact h
  · rw [unmarked_cons_iff] at h
    simp only [unmarked_cons_iff]
    exact ⟨h.1, by decide, h.2⟩

theorem unmarked_decimalText (layout : Decimal.Layout) (d : Decimal) :
    Unmarked (layout.decimalText d) := by
  unfold Decimal.Layout.decimalText
  dsimp only
  split
  · decide
  split
  · exact unmarked_plainText (unmarked_toDigits _) _
  · exact unmarked_scientificText (unmarked_toDigits _) _ _

theorem unmarked_text (x : Double) : Unmarked x.text.toList := by
  have hsign : Unmarked (if x.isNegative then "-" else "").toList := by
    split <;> decide
  unfold Double.text
  dsimp only
  split
  · rw [String.toList_append, unmarked_append_iff, String.toList_ofList]
    exact ⟨hsign, unmarked_decimalText _ _⟩
  split
  · rw [String.toList_append, unmarked_append_iff]
    exact ⟨hsign, by decide⟩
  · decide

theorem unmarked_floatText (x : Double) : Unmarked (floatText x).toList := by
  unfold floatText
  split
  · exact unmarked_text x
  · split_ifs <;> decide

theorem unmarked_integerText (n : Int) : Unmarked (Decimal.integerText n).toList := by
  cases n with
  | ofNat n =>
      rw [Decimal.integerText, Decimal.naturalText, String.toList_ofList]
      exact unmarked_toDigits n
  | negSucc n =>
      simp only [Decimal.integerText, Decimal.naturalText, String.toList_append,
        String.toList_ofList, unmarked_append_iff]
      exact ⟨by decide, unmarked_toDigits _⟩

/-- A word or number has no mark in it. -/
theorem unmarked_chars {v : Value} (h : v.isAtom = true) : Unmarked (chars v) := by
  cases v with
  | null =>
      decide
  | bool b =>
      cases b <;> decide
  | int n =>
      exact unmarked_integerText n
  | float x =>
      exact unmarked_floatText x
  | str | list | map =>
      cases h

end Atoms

section Delimiting

variable {α : Type} {text : α → List Char} {xs ys : List α} {close : Char}
  {rest rest' : List Char}

/-- Is a written item told from what follows it, if that is empty or begins with a mark? -/
def Delimited (text : α → List Char) (x : α) : Prop :=
  ∀ y rest rest', Closed rest → Closed rest' → text x ++ rest = text y ++ rest' →
    text x = text y ∧ rest = rest'

/-- Items behind others, each behind a comma. -/
def behindCommas (text : α → List Char) (xs : List α) : List Char :=
  xs.flatMap fun x => ',' :: text x

/-- Items separated by commas. -/
def separated (text : α → List Char) : List α → List Char
  | [] => []
  | x :: xs => text x ++ behindCommas text xs

theorem separated_eq_map (text : α → List Char) (xs : List α) :
    separated text xs = separated id (xs.map text) := by
  cases xs <;> simp [separated, behindCommas, List.flatMap_map]

theorem closed_behindCommas (hclose : isMark close = true) (text : α → List Char) (xs : List α) :
    Closed (behindCommas text xs ++ close :: rest) := by
  cases xs with
  | nil =>
      exact hclose
  | cons x xs =>
      rfl

/-- Items behind commas are told one by one, up to what closes them. -/
theorem behindCommas_inj
    (hclose : isMark close = true) (hcomma : close ≠ ',') (htext : ∀ x ∈ xs, Delimited text x)
    (h : behindCommas text xs ++ close :: rest = behindCommas text ys ++ close :: rest') :
    xs.map text = ys.map text ∧ rest = rest' := by
  induction xs generalizing ys with
  | nil =>
      cases ys with
      | nil =>
          exact ⟨rfl, (List.cons.inj h).2⟩
      | cons y ys =>
          exact absurd (List.cons.inj h).1 hcomma
  | cons x xs ih =>
      cases ys with
      | nil =>
          exact absurd (List.cons.inj h).1.symm hcomma
      | cons y ys =>
          have hrest : text x ++ (behindCommas text xs ++ close :: rest) =
              text y ++ (behindCommas text ys ++ close :: rest') := by
            simpa [behindCommas] using h
          obtain ⟨hx, hxs⟩ := htext x (by simp) y _ _ (closed_behindCommas hclose text xs)
            (closed_behindCommas hclose text ys) hrest
          obtain ⟨hmap, hsame⟩ := ih (fun other hother => htext other (by simp [hother])) hxs
          exact ⟨by rw [List.map_cons, List.map_cons, hx, hmap], hsame⟩

/-- Separated items are told one by one if none of them begins with what closes them. -/
theorem separated_inj
    (hclose : isMark close = true) (hcomma : close ≠ ',') (htext : ∀ x ∈ xs, Delimited text x)
    (hopen : ∀ x rest rest', text x ++ rest ≠ close :: rest')
    (h : separated text xs ++ close :: rest = separated text ys ++ close :: rest') :
    xs.map text = ys.map text ∧ rest = rest' := by
  cases xs with
  | nil =>
      cases ys with
      | nil =>
          exact ⟨rfl, (List.cons.inj h).2⟩
      | cons y ys =>
          rw [separated, separated, List.append_assoc] at h
          exact absurd h.symm (hopen y _ _)
  | cons x xs =>
      cases ys with
      | nil =>
          rw [separated, separated, List.append_assoc] at h
          exact absurd h (hopen x _ _)
      | cons y ys =>
          exact behindCommas_inj hclose hcomma htext (congrArg (List.cons ',') h)

end Delimiting

section Values

/-- The mark that a value begins with; none for a word or number. -/
def opening : Value → Option Char
  | .str _ => some '"'
  | .list _ => some '['
  | .map _ => some '\x7b'
  | .null | .bool _ | .int _ | .float _ => none

theorem decimalText_ne_nil (layout : Decimal.Layout) (d : Decimal) : layout.decimalText d ≠ [] := by
  unfold Decimal.Layout.decimalText Decimal.plainText Decimal.scientificText
  dsimp only
  split_ifs <;> simp

theorem floatText_ne_nil (x : Double) : (floatText x).toList ≠ [] := by
  unfold floatText Double.text
  dsimp only
  split_ifs <;> simp [decimalText_ne_nil]

theorem chars_ne_nil (v : Value) : chars v ≠ [] := by
  cases v with
  | null | str | list | map =>
      exact List.cons_ne_nil _ _
  | bool b =>
      cases b <;> exact List.cons_ne_nil _ _
  | int n =>
      cases n <;> simp [chars, Decimal.integerText, Decimal.naturalText, Nat.toDigits_ne_nil]
  | float x =>
      exact floatText_ne_nil x

/-- The first character of a value tells what it is, whatever follows. -/
theorem opening_eq (v : Value) (rest : List Char) :
    (chars v ++ rest).head?.filter isMark = opening v := by
  cases hatom : v.isAtom with
  | false =>
      cases v with
      | str | list | map =>
          rfl
      | null | bool | int | float =>
          cases hatom
  | true =>
      obtain ⟨c, cs, hchars⟩ := List.exists_cons_of_ne_nil (chars_ne_nil v)
      have hc : isMark c = false := unmarked_chars hatom c (by simp [hchars])
      have hopen : opening v = none := by
        cases v <;> first | rfl | cases hatom
      simp [hchars, hc, hopen]

theorem opening_eq_of_append_eq
    {v w : Value} {rest rest' : List Char} (h : chars v ++ rest = chars w ++ rest') :
    opening v = opening w := by
  rw [← opening_eq v rest, h, opening_eq]

theorem isAtom_iff {v : Value} : v.isAtom = true ↔ opening v = none := by
  cases v <;> simp [Value.isAtom, opening]

theorem itemsChars_eq : ∀ items : List Value, itemsChars items = separated chars items
  | [] => rfl
  | [v] => by
      simp [itemsChars, separated, behindCommas]
  | v :: w :: rest => by
      rw [itemsChars, itemsChars_eq (w :: rest)]
      simp [separated, behindCommas]

/-- A field as it stands in a map. -/
def fieldChars (field : String × Value) : List Char :=
  stringChars field.1 ++ ':' :: chars field.2

theorem fieldsChars_eq : ∀ fields : PropertyMap, fieldsChars fields = separated fieldChars fields
  | [] => rfl
  | [(key, v)] => by
      simp [fieldsChars, separated, behindCommas, fieldChars]
  | (key, v) :: field :: rest => by
      rw [fieldsChars, fieldsChars_eq (field :: rest)]
      simp [separated, behindCommas, fieldChars]

theorem chars_list_append (items : List Value) (rest : List Char) :
    chars (.list items) ++ rest = '[' :: (separated chars items ++ ']' :: rest) := by
  simp [chars, itemsChars_eq]

theorem chars_map_append (fields : PropertyMap) (rest : List Char) :
    chars (.map fields) ++ rest = '\x7b' :: (separated fieldChars fields ++ '\x7d' :: rest) := by
  simp [chars, fieldsChars_eq]

theorem chars_append_ne
    {close : Char} (hmark : isMark close = true) (hclose : ∀ v, opening v ≠ some close) (v : Value)
    (rest rest' : List Char) :
    chars v ++ rest ≠ close :: rest' := by
  intro h
  apply hclose v
  rw [← opening_eq v rest, h]
  simp [hmark]

/-- Separated items are told one by one if each of them is. -/
theorem separated_chars_inj
    {xs ys : List Value} {rest rest' : List Char} (htext : ∀ v ∈ xs, Delimited chars v)
    (h : separated chars xs ++ ']' :: rest = separated chars ys ++ ']' :: rest') :
    xs.map chars = ys.map chars ∧ rest = rest' := by
  refine separated_inj (by decide) (by decide) htext (fun v => ?_) h
  exact chars_append_ne (by decide) (fun v => by cases v <;> simp [opening]) v

/-- A key is told from its value, and the value from what follows. -/
theorem fieldChars_append_inj
    {field other : String × Value} {rest rest' : List Char} (htext : Delimited chars field.2)
    (hrest : Closed rest) (hrest' : Closed rest')
    (h : fieldChars field ++ rest = fieldChars other ++ rest') :
    field.1 = other.1 ∧ chars field.2 = chars other.2 ∧ rest = rest' := by
  simp only [fieldChars, List.append_assoc, List.cons_append] at h
  obtain ⟨hkey, hvalue⟩ := stringChars_append_inj h
  exact ⟨hkey, htext other.2 _ _ hrest hrest' (List.cons.inj hvalue).2⟩

/-- Separated fields are told one by one if the values in them are. -/
theorem separated_fieldChars_inj
    {fs gs : PropertyMap} {rest rest' : List Char}
    (htext : ∀ field ∈ fs, Delimited chars field.2)
    (h : separated fieldChars fs ++ '\x7d' :: rest = separated fieldChars gs ++ '\x7d' :: rest') :
    fs.map fieldChars = gs.map fieldChars ∧ rest = rest' := by
  refine separated_inj (by decide) (by decide) (fun field hfield => ?_) (fun field => ?_) h
  · intro other rest rest' hrest hrest' heq
    obtain ⟨hkey, hvalue, hsame⟩ :=
      fieldChars_append_inj (htext field hfield) hrest hrest' heq
    exact ⟨by rw [fieldChars, fieldChars, hkey, hvalue], hsame⟩
  · intro rest rest' heq
    simp [fieldChars, stringChars] at heq

/-- A written value is told from whatever follows it. -/
theorem delimited_chars (v : Value) : Delimited chars v := by
  induction v using Value.treeInduction with
  | atom v hv =>
      intro w rest rest' hrest hrest' h
      have hw : w.isAtom = true := by
        rw [isAtom_iff, ← opening_eq_of_append_eq h, ← isAtom_iff, hv]
      exact append_inj_of_unmarked (unmarked_chars hv) (unmarked_chars hw) hrest hrest' h
  | str s =>
      intro w rest rest' _ _ h
      have hopen := opening_eq_of_append_eq h
      cases w with
      | str t =>
          obtain ⟨rfl, hsame⟩ := stringChars_append_inj h
          exact ⟨rfl, hsame⟩
      | null | bool | int | float | list | map =>
          simp [opening] at hopen
  | list xs ih =>
      intro w rest rest' _ _ h
      have hopen := opening_eq_of_append_eq h
      cases w with
      | list ys =>
          have hitems := h
          rw [chars_list_append, chars_list_append] at hitems
          obtain ⟨-, rfl⟩ := separated_chars_inj ih (List.cons.inj hitems).2
          exact ⟨List.append_cancel_right h, rfl⟩
      | null | bool | int | float | str | map =>
          simp [opening] at hopen
  | map fs ih =>
      intro w rest rest' _ _ h
      have hopen := opening_eq_of_append_eq h
      cases w with
      | map gs =>
          have hfields := h
          rw [chars_map_append, chars_map_append] at hfields
          obtain ⟨-, rfl⟩ := separated_fieldChars_inj ih (List.cons.inj hfields).2
          exact ⟨List.append_cancel_right h, rfl⟩
      | null | bool | int | float | str | list =>
          simp [opening] at hopen

theorem print_eq_iff {v w : Value} : print v = print w ↔ chars v = chars w :=
  String.ofList_inj

theorem opening_eq_of_print_eq {v w : Value} (h : print v = print w) : opening v = opening w := by
  rw [← opening_eq v [], print_eq_iff.1 h, opening_eq]

/-- Two strings have one text only if they are the same. -/
theorem print_str_eq_iff {s t : String} : print (.str s) = print (.str t) ↔ s = t := by
  rw [print_eq_iff]
  constructor
  · intro h
    have happend : stringChars s ++ [] = stringChars t ++ [] := congrArg (· ++ []) h
    exact (stringChars_append_inj happend).1
  · rintro rfl
    rfl

theorem map_eq_map_iff_forall₂ {α β : Type} {f : α → β} {xs ys : List α} :
    xs.map f = ys.map f ↔ List.Forall₂ (fun x y => f x = f y) xs ys := by
  rw [← List.forall₂_eq_eq_eq, List.forall₂_map_left_iff, List.forall₂_map_right_iff]

/-- Two lists have one text exactly when their items have, one by one. -/
theorem print_list_eq_iff {xs ys : List Value} :
    print (.list xs) = print (.list ys) ↔ xs.map print = ys.map print := by
  have hitems : xs.map print = ys.map print ↔ xs.map chars = ys.map chars := by
    simp only [map_eq_map_iff_forall₂, print_eq_iff]
  rw [print_eq_iff, hitems]
  constructor
  · intro h
    have happend := congrArg (· ++ []) h
    simp only [chars_list_append] at happend
    exact (separated_chars_inj (fun v _ => delimited_chars v) (List.cons.inj happend).2).1
  · intro h
    simp only [chars, itemsChars_eq, separated_eq_map chars, h]

/-- A key and the text of its value. -/
def writtenField (field : String × Value) : String × String :=
  (field.1, print field.2)

theorem fieldChars_eq_iff {field other : String × Value} :
    fieldChars field = fieldChars other ↔ writtenField field = writtenField other := by
  rw [writtenField, writtenField, Prod.mk.injEq, print_eq_iff]
  constructor
  · intro h
    have happend : fieldChars field ++ [] = fieldChars other ++ [] := by
      rw [h]
    obtain ⟨hkey, hvalue, -⟩ :=
      fieldChars_append_inj (delimited_chars field.2) closed_nil closed_nil happend
    exact ⟨hkey, hvalue⟩
  · rintro ⟨hkey, hvalue⟩
    rw [fieldChars, fieldChars, hkey, hvalue]

/-- Two maps have one text exactly when their keys are the same and their values have one text,
field by field. -/
theorem print_map_eq_iff {fs gs : PropertyMap} :
    print (.map fs) = print (.map gs) ↔ fs.map writtenField = gs.map writtenField := by
  have hfields : fs.map writtenField = gs.map writtenField ↔
      fs.map fieldChars = gs.map fieldChars := by
    simp only [map_eq_map_iff_forall₂, fieldChars_eq_iff]
  rw [print_eq_iff, hfields]
  constructor
  · intro h
    have happend := congrArg (· ++ []) h
    simp only [chars_map_append] at happend
    exact (separated_fieldChars_inj (fun field _ => delimited_chars field.2)
      (List.cons.inj happend).2).1
  · intro h
    simp only [chars, fieldsChars_eq, separated_eq_map fieldChars, h]

end Values

end Json
end CypherBatch
