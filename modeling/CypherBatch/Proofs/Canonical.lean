import CypherBatch.Proofs.Insertion
import CypherBatch.Proofs.Readability

/-!
# Canonical texts

The canonical text of a value has the keys of every map in order.  Two values without
floating-point numbers have the same canonical text exactly when they are equal up to the
order of the keys of their maps, at every level and also inside lists.

Keys are distinct, so that sorted fields are the same exactly when they are the same in some
order: then each key has, in both maps, values with one canonical text or no value at all.
Both directions are an induction on the value from there, since texts can be told apart.
-/

namespace CypherBatch

namespace Value

mutual

/-- Are two values equal up to the order of the keys of their maps? -/
def alike : Value → Value → Bool
  | .list items, w =>
      match w with
      | .list others => alikeItems items others
      | _ => false
  | .map fields, w =>
      match w with
      | .map others =>
          (PropertyMap.keys others).all (PropertyMap.contains fields) && alikeFields fields others
      | _ => false
  | v, w => v = w

/-- Are the items of two lists alike, one by one? -/
def alikeItems : List Value → List Value → Bool
  | [], others => others.isEmpty
  | v :: rest, others =>
      match others with
      | [] => false
      | w :: others => alike v w && alikeItems rest others

/-- Does a map hold, under the key of each field, a value alike to that in the field? -/
def alikeFields : List (String × Value) → PropertyMap → Bool
  | [], _ => true
  | (key, v) :: rest, others =>
      (match PropertyMap.get? others key with
        | some w => alike v w
        | none => false) && alikeFields rest others

end

mutual

/-- Does a test hold of a value and of all values inside it? -/
def everywhere (test : Value → Bool) : Value → Bool
  | .list items => test (.list items) && everywhereItems test items
  | .map fields => test (.map fields) && everywhereFields test fields
  | v => test v

def everywhereItems (test : Value → Bool) : List Value → Bool
  | [] => true
  | v :: rest => everywhere test v && everywhereItems test rest

def everywhereFields (test : Value → Bool) : List (String × Value) → Bool
  | [] => true
  | (_, v) :: rest => everywhere test v && everywhereFields test rest

end

/-- Are the keys of every map in a value distinct? -/
def hasDistinctKeys (v : Value) : Bool :=
  v.everywhere fun
    | .map fields => (PropertyMap.keys fields).Nodup
    | _ => true

/-- Is there no floating-point number in a value? -/
def isFloatless (v : Value) : Bool :=
  v.everywhere fun
    | .float _ => false
    | _ => true

section Alike

variable {v w : Value} {xs ys : List Value} {fs gs : PropertyMap}

theorem alike_iff_of_isAtom (h : v.isAtom = true) : alike v w = true ↔ v = w := by
  cases v with
  | null | bool | int | float =>
      simp [alike]
  | str | list | map =>
      cases h

theorem alike_str_iff {s : String} : alike (.str s) w = true ↔ .str s = w := by
  simp [alike]

theorem alikeItems_iff :
    alikeItems xs ys = true ↔ List.Forall₂ (fun v w => alike v w = true) xs ys := by
  induction xs generalizing ys with
  | nil =>
      simp [alikeItems]
  | cons v xs ih =>
      cases ys with
      | nil =>
          simp [alikeItems]
      | cons w ys =>
          simp [alikeItems, ih]

theorem alike_list_iff :
    alike (.list xs) w = true ↔
      ∃ ys, w = .list ys ∧ List.Forall₂ (fun v w => alike v w = true) xs ys := by
  cases w <;> simp [alike, alikeItems_iff]

theorem alikeFields_iff :
    alikeFields fs gs = true ↔
      ∀ field ∈ fs, ∃ w, PropertyMap.get? gs field.1 = some w ∧ alike field.2 w = true := by
  induction fs with
  | nil =>
      simp [alikeFields]
  | cons field fs ih =>
      obtain ⟨key, v⟩ := field
      rw [alikeFields, Bool.and_eq_true, ih, List.forall_mem_cons]
      cases PropertyMap.get? gs key <;> simp

theorem alike_map_iff :
    alike (.map fs) w = true ↔
      ∃ gs, w = .map gs ∧ (∀ key ∈ PropertyMap.keys gs, key ∈ PropertyMap.keys fs) ∧
        ∀ field ∈ fs, ∃ w, PropertyMap.get? gs field.1 = some w ∧ alike field.2 w = true := by
  have hkey (key : String) :
      PropertyMap.contains fs key = true ↔ key ∈ PropertyMap.keys fs := by
    rw [PropertyMap.contains, Option.isSome_iff_ne_none, ne_eq, PropertyMap.get?_eq_none_iff,
      not_not]
  cases w <;> simp [alike, alikeFields_iff, hkey]

end Alike

section Everywhere

variable {test : Value → Bool} {items : List Value} {fields : PropertyMap}

theorem everywhere_list_iff :
    everywhere test (.list items) = true ↔
      test (.list items) = true ∧ ∀ v ∈ items, everywhere test v = true := by
  have hitems : everywhereItems test items = true ↔ ∀ v ∈ items, everywhere test v = true := by
    induction items with
    | nil =>
        simp [everywhereItems]
    | cons v rest ih =>
        simp [everywhereItems, ih]
  rw [everywhere, Bool.and_eq_true, hitems]

theorem everywhere_map_iff :
    everywhere test (.map fields) = true ↔
      test (.map fields) = true ∧ ∀ field ∈ fields, everywhere test field.2 = true := by
  have hfields : everywhereFields test fields = true ↔
      ∀ field ∈ fields, everywhere test field.2 = true := by
    induction fields with
    | nil =>
        simp [everywhereFields]
    | cons field rest ih =>
        obtain ⟨key, v⟩ := field
        rw [everywhereFields, Bool.and_eq_true, ih, List.forall_mem_cons]
  rw [everywhere, Bool.and_eq_true, hfields]

@[simp] theorem hasDistinctKeys_list_iff :
    hasDistinctKeys (.list items) = true ↔ ∀ v ∈ items, hasDistinctKeys v = true := by
  simp [hasDistinctKeys, everywhere_list_iff]

@[simp] theorem hasDistinctKeys_map_iff :
    hasDistinctKeys (.map fields) = true ↔
      (PropertyMap.keys fields).Nodup ∧ ∀ field ∈ fields, hasDistinctKeys field.2 = true := by
  simp [hasDistinctKeys, everywhere_map_iff]

@[simp] theorem isFloatless_list_iff :
    isFloatless (.list items) = true ↔ ∀ v ∈ items, isFloatless v = true := by
  simp [isFloatless, everywhere_list_iff]

@[simp] theorem isFloatless_map_iff :
    isFloatless (.map fields) = true ↔ ∀ field ∈ fields, isFloatless field.2 = true := by
  simp [isFloatless, everywhere_map_iff]

end Everywhere

end Value

namespace Json

section Sorting

variable {v w : Value} {xs ys : List Value} {fs gs : PropertyMap}

theorem sortedItems_eq_map (items : List Value) : sortedItems items = items.map sorted := by
  induction items with
  | nil =>
      rfl
  | cons v rest ih =>
      rw [sortedItems, ih, List.map_cons]

theorem sortedFields_eq_map (fields : PropertyMap) :
    sortedFields fields = fields.map fun field => (field.1, sorted field.2) := by
  induction fields with
  | nil =>
      rfl
  | cons field rest ih =>
      rw [sortedFields, ih, List.map_cons]

theorem sorted_of_isAtom (h : v.isAtom = true) : sorted v = v := by
  cases v <;> first | rfl | cases h

@[simp] theorem opening_sorted (v : Value) : opening (sorted v) = opening v := by
  cases v <;> rfl

theorem opening_eq_of_canonical_eq (h : canonical v = canonical w) : opening v = opening w := by
  rw [← opening_sorted v, ← opening_sorted w]
  exact opening_eq_of_print_eq h

/-- Is the key of the first written field not after that of the second? -/
def writtenLe (a b : String × String) : Bool :=
  a.1 ≤ b.1

/-- Fields with distinct keys are the same when sorted if they are the same in some order. -/
theorem mergeSort_writtenLe_eq_iff
    {texts others : List (String × String)} (hkeys : (texts.map (·.1)).Nodup) :
    texts.mergeSort writtenLe = others.mergeSort writtenLe ↔ texts.Perm others := by
  have htrans (a b c : String × String) (hab : writtenLe a b = true) (hbc : writtenLe b c = true) :
      writtenLe a c = true := by
    simp only [writtenLe, decide_eq_true_eq] at hab hbc ⊢
    exact String.le_trans hab hbc
  have htotal (a b : String × String) : (writtenLe a b || writtenLe b a) = true := by
    simpa [writtenLe] using String.le_total a.1 b.1
  constructor
  · intro h
    exact (List.mergeSort_perm texts writtenLe).symm.trans
      (h ▸ List.mergeSort_perm others writtenLe)
  · intro hperm
    refine List.Perm.eq_of_pairwise ?_ (List.pairwise_mergeSort htrans htotal texts)
      (List.pairwise_mergeSort htrans htotal others)
      (((List.mergeSort_perm texts writtenLe).trans hperm).trans
        (List.mergeSort_perm others writtenLe).symm)
    intro a b ha hb hab hba
    simp only [writtenLe, decide_eq_true_eq] at hab hba
    exact List.inj_on_of_nodup_map hkeys (List.mem_mergeSort.1 ha)
      (hperm.mem_iff.2 (List.mem_mergeSort.1 hb)) (String.le_antisymm hab hba)

/-- Two lists have one canonical text exactly when their items have, one by one. -/
theorem canonical_list_eq_iff :
    canonical (.list xs) = canonical (.list ys) ↔
      List.Forall₂ (fun v w => canonical v = canonical w) xs ys := by
  rw [canonical, canonical, sorted, sorted, print_list_eq_iff, sortedItems_eq_map,
    sortedItems_eq_map, List.map_map, List.map_map, map_eq_map_iff_forall₂]
  rfl

/-- A key and the canonical text of its value. -/
def canonicalField (field : String × Value) : String × String :=
  (field.1, canonical field.2)

theorem map_fst_canonicalField (fields : PropertyMap) :
    (fields.map canonicalField).map (·.1) = PropertyMap.keys fields := by
  simp [PropertyMap.keys, canonicalField, Function.comp_def]

theorem map_writtenField_mergeSort (fields : PropertyMap) :
    ((sortedFields fields).mergeSort keyLe).map writtenField =
      (fields.map canonicalField).mergeSort writtenLe := by
  have hsort : ((sortedFields fields).mergeSort keyLe).map writtenField =
      ((sortedFields fields).map writtenField).mergeSort writtenLe :=
    List.map_mergeSort fun _ _ _ _ => rfl
  rw [hsort, sortedFields_eq_map, List.map_map]
  rfl

theorem mem_map_canonicalField_iff
    {key text : String} (hfs : (PropertyMap.keys fs).Nodup) :
    (key, text) ∈ fs.map canonicalField ↔ (PropertyMap.get? fs key).map canonical = some text := by
  simp only [List.mem_map, canonicalField, Prod.mk.injEq, Option.map_eq_some_iff,
    PropertyMap.get?_eq_some_iff hfs]
  constructor
  · rintro ⟨⟨k, v⟩, hmem, rfl, htext⟩
    exact ⟨v, hmem, htext⟩
  · rintro ⟨v, hmem, htext⟩
    exact ⟨(key, v), hmem, rfl, htext⟩

/-- Two maps have one canonical text exactly when they have, under each key, values with one
canonical text or no value. -/
theorem canonical_map_eq_iff
    (hfs : (PropertyMap.keys fs).Nodup) (hgs : (PropertyMap.keys gs).Nodup) :
    canonical (.map fs) = canonical (.map gs) ↔
      ∀ key, (PropertyMap.get? fs key).map canonical = (PropertyMap.get? gs key).map canonical := by
  have hkeys : ((fs.map canonicalField).map (·.1)).Nodup := by
    rwa [map_fst_canonicalField]
  have hkeys' : ((gs.map canonicalField).map (·.1)).Nodup := by
    rwa [map_fst_canonicalField]
  rw [canonical, canonical, sorted, sorted, print_map_eq_iff, map_writtenField_mergeSort,
    map_writtenField_mergeSort, mergeSort_writtenLe_eq_iff hkeys,
    List.perm_ext_iff_of_nodup hkeys.of_map hkeys'.of_map]
  constructor
  · intro h key
    refine Option.ext fun text => ?_
    rw [← mem_map_canonicalField_iff hfs, ← mem_map_canonicalField_iff hgs]
    exact h (key, text)
  · rintro h ⟨key, text⟩
    rw [mem_map_canonicalField_iff hfs, mem_map_canonicalField_iff hgs, h key]

end Sorting

section Words

variable {v w : Value}

theorem integerText_inj {m n : Int} (h : Decimal.integerText m = Decimal.integerText n) : m = n := by
  have hdigits {m n : Nat} (h : Nat.toDigits 10 m = Nat.toDigits 10 n) : m = n := by
    have hread (n : Nat) : Nat.ofDigitChars 10 (Nat.toDigits 10 n) 0 = n :=
      Nat.ofDigitChars_toDigits (by decide) (by decide)
    rw [← hread m, h, hread]
  -- A minus sign is no digit, so that only integers of one sign can have one text.
  have hsign (m n : Nat) : '-' :: Nat.toDigits 10 m ≠ Nat.toDigits 10 n := by
    intro h
    have hminus : '-'.isDigit = true :=
      Nat.isDigit_of_mem_toDigits (by decide) (by decide) (h ▸ List.mem_cons_self)
    cases hminus
  rw [← String.toList_inj] at h
  cases m with
  | ofNat m =>
      cases n with
      | ofNat n =>
          simp only [Decimal.integerText, Decimal.naturalText, String.toList_ofList] at h
          rw [hdigits h]
      | negSucc n =>
          exact absurd (by simpa [Decimal.integerText, Decimal.naturalText] using h.symm)
            (hsign (n + 1) m)
  | negSucc m =>
      cases n with
      | ofNat n =>
          exact absurd (by simpa [Decimal.integerText, Decimal.naturalText] using h)
            (hsign (m + 1) n)
      | negSucc n =>
          have htail : Nat.toDigits 10 (m + 1) = Nat.toDigits 10 (n + 1) := by
            simpa [Decimal.integerText, Decimal.naturalText] using h
          have hsucc := hdigits htail
          rw [Nat.succ.inj hsucc]

/-- There is nothing but digits and a minus sign in an integer, and so it is none of the words. -/
theorem not_mem_integerText
    {c : Char} (hdigit : c.isDigit = false) (hminus : c ≠ '-') (n : Int) :
    c ∉ (Decimal.integerText n).toList := by
  have hdigits (n : Nat) : c ∉ Nat.toDigits 10 n := by
    intro hc
    have hc := Nat.isDigit_of_mem_toDigits (by decide) (by decide) hc
    rw [hdigit] at hc
    cases hc
  cases n with
  | ofNat n =>
      rw [Decimal.integerText, Decimal.naturalText, String.toList_ofList]
      exact hdigits n
  | negSucc n =>
      simp only [Decimal.integerText, Decimal.naturalText, String.toList_append,
        String.toList_ofList, List.mem_append, not_or]
      exact ⟨by simpa using hminus, hdigits (n + 1)⟩

theorem chars_int_ne
    {word : List Char} {c : Char} (hc : c ∈ word) (hdigit : c.isDigit = false) (hminus : c ≠ '-')
    (n : Int) :
    chars (.int n) ≠ word := by
  rintro rfl
  exact not_mem_integerText hdigit hminus n hc

theorem word_cases (hatom : v.isAtom = true) (hexact : v.isFloatless = true) :
    v = .null ∨ (∃ b, v = .bool b) ∨ ∃ n, v = .int n := by
  cases v with
  | null =>
      exact Or.inl rfl
  | bool b =>
      exact Or.inr (Or.inl ⟨b, rfl⟩)
  | int n =>
      exact Or.inr (Or.inr ⟨n, rfl⟩)
  | float =>
      cases hexact
  | str | list | map =>
      cases hatom

/-- Words and integers have different texts. -/
theorem eq_of_print_eq_of_isAtom
    (hv : v.isAtom = true) (hw : w.isAtom = true) (hexact : v.isFloatless = true)
    (hexact' : w.isFloatless = true) (h : print v = print w) :
    v = w := by
  have hnull (n : Int) : chars (.int n) ≠ chars .null :=
    chars_int_ne (c := 'l') (by decide) (by decide) (by decide) n
  have hbool (n : Int) (b : Bool) : chars (.int n) ≠ chars (.bool b) := by
    cases b <;> exact chars_int_ne (c := 'e') (by decide) (by decide) (by decide) n
  rw [print_eq_iff] at h
  rcases word_cases hv hexact with rfl | ⟨b, rfl⟩ | ⟨m, rfl⟩
  · rcases word_cases hw hexact' with rfl | ⟨b, rfl⟩ | ⟨n, rfl⟩
    · rfl
    · cases b <;> cases h
    · exact absurd h.symm (hnull n)
  · rcases word_cases hw hexact' with rfl | ⟨b', rfl⟩ | ⟨n, rfl⟩
    · cases b <;> cases h
    · cases b <;> cases b' <;> first | rfl | cases h
    · exact absurd h.symm (hbool n b)
  · rcases word_cases hw hexact' with rfl | ⟨b, rfl⟩ | ⟨n, rfl⟩
    · exact absurd h (hnull m)
    · exact absurd h (hbool m b)
    · rw [integerText_inj (String.toList_inj.1 h)]

end Words

section Canonical

variable {v w : Value}

/-- Values that are equal up to the order of keys have one canonical text. -/
theorem canonical_eq_of_alike
    (hv : v.hasDistinctKeys = true) (hw : w.hasDistinctKeys = true) (h : v.alike w = true) :
    canonical v = canonical w := by
  induction v using Value.treeInduction generalizing w with
  | atom v hatom =>
      rw [(Value.alike_iff_of_isAtom hatom).1 h]
  | str s =>
      rw [Value.alike_str_iff.1 h]
  | list xs ih =>
      obtain ⟨ys, rfl, hitems⟩ := Value.alike_list_iff.1 h
      rw [Value.hasDistinctKeys_list_iff] at hv hw
      rw [List.forall₂_iff_get] at hitems
      refine canonical_list_eq_iff.2 (List.forall₂_iff_get.2 ⟨hitems.1, fun i hi hi' => ?_⟩)
      exact ih _ (List.get_mem _ _) (hv _ (List.get_mem _ _)) (hw _ (List.get_mem _ _))
        (hitems.2 i hi hi')
  | map fs ih =>
      obtain ⟨gs, rfl, hkeys, hfields⟩ := Value.alike_map_iff.1 h
      rw [Value.hasDistinctKeys_map_iff] at hv hw
      rw [canonical_map_eq_iff hv.1 hw.1]
      intro key
      cases hget : PropertyMap.get? fs key with
      | none =>
          have hnone : PropertyMap.get? gs key = none := by
            rw [PropertyMap.get?_eq_none_iff] at hget ⊢
            exact fun hmem => hget (hkeys key hmem)
          rw [hnone]
      | some v =>
          have hmem := PropertyMap.mem_of_get?_eq_some hget
          obtain ⟨w, hother, halike⟩ := hfields (key, v) hmem
          have hmem' := PropertyMap.mem_of_get?_eq_some hother
          rw [hother, Option.map_some, Option.map_some,
            ih (key, v) hmem (hv.2 _ hmem) (hw.2 _ hmem') halike]

/-- Values without floating-point numbers that have one canonical text are equal up to the order
of keys. -/
theorem alike_of_canonical_eq
    (hv : v.hasDistinctKeys = true) (hw : w.hasDistinctKeys = true)
    (hexact : v.isFloatless = true) (hexact' : w.isFloatless = true)
    (h : canonical v = canonical w) :
    v.alike w = true := by
  have hopen := opening_eq_of_canonical_eq h
  induction v using Value.treeInduction generalizing w with
  | atom v hatom =>
      have hother : w.isAtom = true := by
        rw [isAtom_iff, ← hopen, ← isAtom_iff, hatom]
      rw [canonical, canonical, sorted_of_isAtom hatom, sorted_of_isAtom hother] at h
      rw [Value.alike_iff_of_isAtom hatom]
      exact eq_of_print_eq_of_isAtom hatom hother hexact hexact' h
  | str s =>
      cases w with
      | str t =>
          rw [Value.alike_str_iff, print_str_eq_iff.1 h]
      | null | bool | int | float | list | map =>
          simp [opening] at hopen
  | list xs ih =>
      cases w with
      | list ys =>
          rw [Value.hasDistinctKeys_list_iff] at hv hw
          rw [Value.isFloatless_list_iff] at hexact hexact'
          rw [canonical_list_eq_iff, List.forall₂_iff_get] at h
          refine Value.alike_list_iff.2
            ⟨ys, rfl, List.forall₂_iff_get.2 ⟨h.1, fun i hi hi' => ?_⟩⟩
          have hitem := h.2 i hi hi'
          exact ih _ (List.get_mem _ _) (hv _ (List.get_mem _ _)) (hw _ (List.get_mem _ _))
            (hexact _ (List.get_mem _ _)) (hexact' _ (List.get_mem _ _)) hitem
            (opening_eq_of_canonical_eq hitem)
      | null | bool | int | float | str | map =>
          simp [opening] at hopen
  | map fs ih =>
      cases w with
      | map gs =>
          rw [Value.hasDistinctKeys_map_iff] at hv hw
          rw [Value.isFloatless_map_iff] at hexact hexact'
          rw [canonical_map_eq_iff hv.1 hw.1] at h
          refine Value.alike_map_iff.2 ⟨gs, rfl, fun key hkey => ?_, fun field hfield => ?_⟩
          · by_contra hnot
            rw [← PropertyMap.get?_eq_none_iff] at hnot
            have hnone := h key
            rw [hnot, Option.map_none, eq_comm, Option.map_eq_none_iff,
              PropertyMap.get?_eq_none_iff] at hnone
            exact hnone hkey
          · have hvalue := h field.1
            rw [(PropertyMap.get?_eq_some_iff hv.1).2 hfield, Option.map_some, eq_comm,
              Option.map_eq_some_iff] at hvalue
            obtain ⟨w, hget, htext⟩ := hvalue
            have hmem := PropertyMap.mem_of_get?_eq_some hget
            exact ⟨w, hget, ih field hfield (hv.2 _ hfield) (hw.2 _ hmem) (hexact _ hfield)
              (hexact' _ hmem) htext.symm (opening_eq_of_canonical_eq htext.symm)⟩
      | null | bool | int | float | str | list =>
          simp [opening] at hopen

/-- The canonical texts of two values without floating-point numbers are the same exactly when
the values are equal up to the order of the keys of their maps. -/
theorem canonical_eq_iff_alike
    (hv : v.hasDistinctKeys = true) (hw : w.hasDistinctKeys = true)
    (hexact : v.isFloatless = true) (hexact' : w.isFloatless = true) :
    canonical v = canonical w ↔ v.alike w = true := by
  constructor
  · exact alike_of_canonical_eq hv hw hexact hexact'
  · exact canonical_eq_of_alike hv hw

/-- A map with marks, escapes and a surrogate pair in its keys and strings. -/
def quotedTrack : Value :=
  .map [("b\"", .list [.bool true, .int (-10), .map [("y", .null), ("x", .str "]\x7d\n,\u007f")]]),
    ("a", .map []), ("😀", .str "\\u00e9é")]

/-- The same map with its keys in another order, at two levels. -/
def shuffledTrack : Value :=
  .map [("😀", .str "\\u00e9é"), ("a", .map []),
    ("b\"", .list [.bool true, .int (-10), .map [("x", .str "]\x7d\n,\u007f"), ("y", .null)]])]

/-- The order of keys inside a list inside a map does not show in the canonical text. -/
theorem shuffled_track_has_one_text :
    quotedTrack.hasDistinctKeys = true ∧ shuffledTrack.hasDistinctKeys = true ∧
    quotedTrack.isFloatless = true ∧ shuffledTrack.isFloatless = true ∧
    quotedTrack.alike shuffledTrack = true ∧ canonical quotedTrack = canonical shuffledTrack := by
  have hv : quotedTrack.hasDistinctKeys = true := by
    decide +kernel
  have hw : shuffledTrack.hasDistinctKeys = true := by
    decide +kernel
  have hexact : quotedTrack.isFloatless = true := by
    decide +kernel
  have hexact' : shuffledTrack.isFloatless = true := by
    decide +kernel
  have halike : quotedTrack.alike shuffledTrack = true := by
    decide +kernel
  exact ⟨hv, hw, hexact, hexact', halike, (canonical_eq_iff_alike hv hw hexact hexact').2 halike⟩

/-- Whether something is a string, a number or a truth value, and the order of items, do show. -/
example :
    canonical (.int 1) ≠ canonical (.bool true) ∧ canonical (.int 1) ≠ canonical (.str "1") ∧
    canonical (.list [.int 1, .int 2]) ≠ canonical (.list [.int 2, .int 1]) := by
  decide +kernel

end Canonical

end Json
end CypherBatch
