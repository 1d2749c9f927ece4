import CypherBatch.Value
import Mathlib.Tactic

/-!
# Storing fields

Storing a field writes in place where its key is there, and at the end otherwise.
So storing several fields changes the map that is there in place and puts the new
ones behind it, in their order; what is stored under a key is the new value if
there is one, and the old one otherwise.  Of several new values the last counts.

Fields may be stored in another map first: storing that map then is storing its fields
and theirs, one behind another.
-/

namespace CypherBatch
namespace PropertyMap

variable {key : String} {value : Value} {m fields : PropertyMap}

@[simp] theorem keys_cons (field : String × Value) (m : PropertyMap) :
    keys (field :: m) = field.1 :: keys m := by
  rfl

@[simp] theorem keys_append (m rest : PropertyMap) :
    keys (m ++ rest) = keys m ++ keys rest := by
  simp [keys]

theorem mem_keys_of_mem (h : (key, value) ∈ m) : key ∈ keys m :=
  List.mem_map_of_mem (f := Prod.fst) h

/-- In a map whose keys are distinct, look-up finds its fields and nothing else. -/
theorem get?_eq_some_iff (h : (keys m).Nodup) :
    get? m key = some value ↔ (key, value) ∈ m := by
  induction m with
  | nil =>
      simp [get?]
  | cons field m ih =>
      obtain ⟨k, v⟩ := field
      rw [keys_cons, List.nodup_cons] at h
      by_cases hk : k = key
      · subst hk
        have hnot : (k, value) ∉ m := fun hmem => h.1 (mem_keys_of_mem hmem)
        simp [get?, hnot, eq_comm]
      · simp [get?, hk, ih h.2, Ne.symm hk]

theorem mem_of_get?_eq_some (h : get? m key = some value) : (key, value) ∈ m := by
  induction m with
  | nil =>
      cases h
  | cons field m ih =>
      obtain ⟨k, v⟩ := field
      by_cases hk : k = key
      · simp only [get?, hk, if_true, Option.some.injEq] at h
        simp [hk, h]
      · simp only [get?, hk, if_false] at h
        exact List.mem_cons_of_mem _ (ih h)

theorem get?_eq_none_iff : get? m key = none ↔ key ∉ keys m := by
  induction m with
  | nil =>
      simp [get?, keys]
  | cons field m ih =>
      obtain ⟨k, v⟩ := field
      by_cases hk : k = key
      · simp [get?, hk]
      · simp [get?, hk, ih, Ne.symm hk]

/-- Of the fields that are kept for their keys, those under a key are all there or none is. -/
theorem get?_filter (keep : String → Bool) (m : PropertyMap) (key : String) :
    get? (m.filter fun field => keep field.1) key = if keep key then get? m key else none := by
  induction m with
  | nil =>
      simp [get?]
  | cons field m ih =>
      obtain ⟨k, v⟩ := field
      rw [List.filter_cons]
      by_cases hk : k = key
      · subst hk
        cases hkeep : keep k with
        | true =>
            simp [get?]
        | false =>
            simpa [hkeep] using ih
      · cases hkeep : keep k with
        | true =>
            simpa [hkeep, get?, hk] using ih
        | false =>
            simpa [hkeep, get?, hk] using ih

theorem nodup_keys_filter (h : (keys m).Nodup) (keep : String → Bool) :
    (keys (m.filter fun field => keep field.1)).Nodup :=
  h.sublist (List.Sublist.map _ List.filter_sublist)

theorem insert_ne_nil (key : String) (value : Value) (m : PropertyMap) :
    insert key value m ≠ [] := by
  intro h
  have hget := get?_insert_self key value m
  rw [h] at hget
  cases hget

theorem insert_of_not_mem (h : key ∉ keys m) :
    insert key value m = m ++ [(key, value)] := by
  induction m with
  | nil =>
      rfl
  | cons field m ih =>
      rw [keys_cons, List.mem_cons, not_or] at h
      rw [insert, if_neg (Ne.symm h.1), ih h.2]
      rfl

theorem insert_append_of_mem (h : key ∈ keys m) (rest : PropertyMap) :
    insert key value (m ++ rest) = insert key value m ++ rest := by
  induction m with
  | nil =>
      cases h
  | cons field m ih =>
      obtain ⟨k, v⟩ := field
      by_cases hk : k = key
      · simp [insert, hk]
      · have hmem : key ∈ keys m := by
          simpa [Ne.symm hk] using h
        simp [insert, hk, ih hmem]

/-- Of two values stored under one key the second counts. -/
theorem insert_insert (key : String) (value old : Value) (m : PropertyMap) :
    insert key value (insert key old m) = insert key value m := by
  induction m with
  | nil =>
      simp [insert]
  | cons field m ih =>
      obtain ⟨k, v⟩ := field
      by_cases hk : k = key
      · simp [insert, hk]
      · simp [insert, hk, ih]

/-- Storing what is there already changes nothing. -/
theorem insert_eq_self (h : get? m key = some value) :
    insert key value m = m := by
  induction m with
  | nil =>
      cases h
  | cons field m ih =>
      obtain ⟨k, v⟩ := field
      by_cases hk : k = key
      · subst hk
        obtain rfl : v = value := by simpa [get?] using h
        rw [insert, if_pos rfl]
      · rw [get?, if_neg hk] at h
        rw [insert, if_neg hk, ih h]

/-- Fields that are kept for their keys do not see what is stored under another key. -/
theorem filter_insert
    {keep : String → Bool} (hkey : keep key = false) (value : Value) (m : PropertyMap) :
    ((insert key value m).filter fun field => keep field.1) =
      m.filter fun field => keep field.1 := by
  induction m with
  | nil =>
      simp [insert, hkey]
  | cons field m ih =>
      obtain ⟨k, v⟩ := field
      by_cases hk : k = key
      · subst hk
        simp [insert, hkey]
      · simp only [insert, hk, if_false, List.filter_cons, ih]

theorem keys_insert_of_mem (h : key ∈ keys m) :
    keys (insert key value m) = keys m := by
  rw [keys_insert, if_pos h]

theorem mem_of_mem_insert
    {field : String × Value} (h : field ∈ insert key value m) :
    field = (key, value) ∨ field ∈ m := by
  induction m with
  | nil =>
      exact Or.inl (List.mem_singleton.1 h)
  | cons first m ih =>
      obtain ⟨k, v⟩ := first
      by_cases hk : k = key
      · rw [insert, if_pos hk, List.mem_cons, hk] at h
        exact h.imp_right (List.mem_cons_of_mem _)
      · rw [insert, if_neg hk, List.mem_cons] at h
        rcases h with rfl | h
        · exact Or.inr (by simp)
        · exact (ih h).imp_right (List.mem_cons_of_mem _)

theorem nodup_keys_insert (h : (keys m).Nodup) (key : String) (value : Value) :
    (keys (insert key value m)).Nodup := by
  rw [keys_insert]
  split
  · exact h
  · rename_i hnot
    exact List.nodup_append.2 ⟨h, by simp, by grind⟩

@[simp] theorem insertAll_nil (m : PropertyMap) : insertAll m [] = m := by
  rfl

@[simp] theorem insertAll_cons (m : PropertyMap) (field : String × Value) (fields : PropertyMap) :
    insertAll m (field :: fields) = insertAll (insert field.1 field.2 m) fields := by
  rfl

theorem nodup_keys_insertAll (h : (keys m).Nodup) (fields : PropertyMap) :
    (keys (insertAll m fields)).Nodup := by
  induction fields generalizing m with
  | nil =>
      exact h
  | cons field fields ih =>
      exact ih (nodup_keys_insert h _ _)

theorem mem_of_mem_insertAll
    {field : String × Value} (h : field ∈ insertAll m fields) :
    field ∈ fields ∨ field ∈ m := by
  induction fields generalizing m with
  | nil =>
      exact Or.inr h
  | cons first fields ih =>
      rcases ih h with h | h
      · exact Or.inl (List.mem_cons_of_mem _ h)
      · rcases mem_of_mem_insert h with rfl | h
        · exact Or.inl (by simp)
        · exact Or.inr h

theorem filter_insertAll
    {keep : String → Bool} (h : ∀ key ∈ keys fields, keep key = false) (m : PropertyMap) :
    ((insertAll m fields).filter fun field => keep field.1) =
      m.filter fun field => keep field.1 := by
  induction fields generalizing m with
  | nil =>
      rfl
  | cons field fields ih =>
      rw [keys_cons, List.forall_mem_cons] at h
      rw [insertAll_cons, ih h.2, filter_insert h.1]

theorem mem_keys_insertAll_iff :
    key ∈ keys (insertAll m fields) ↔ key ∈ keys m ∨ key ∈ keys fields := by
  induction fields generalizing m with
  | nil =>
      simp [keys]
  | cons field fields ih =>
      have hinsert : key ∈ keys (insert field.1 field.2 m) ↔ key = field.1 ∨ key ∈ keys m := by
        rw [keys_insert]
        split
        · rename_i hmem
          constructor
          · exact Or.inr
          · rintro (rfl | h)
            · exact hmem
            · exact h
        · simp [or_comm]
      rw [insertAll_cons, ih, hinsert, keys_cons, List.mem_cons]
      tauto

/-- Fields that are all there are written in place. -/
theorem insertAll_append_of_mem
    (h : ∀ field ∈ fields, field.1 ∈ keys m) (rest : PropertyMap) :
    insertAll (m ++ rest) fields = insertAll m fields ++ rest := by
  induction fields generalizing m with
  | nil =>
      rfl
  | cons field fields ih =>
      have hfield : field.1 ∈ keys m := h field (by simp)
      rw [insertAll_cons, insertAll_cons, insert_append_of_mem hfield, ih]
      intro other hother
      rw [keys_insert_of_mem hfield]
      exact h other (by simp [hother])

/-- Fields that are there are written in place, and the others put behind the map. -/
theorem insertAll_eq (h : (keys fields).Nodup) (m : PropertyMap) :
    insertAll m fields =
      insertAll m (fields.filter fun field => field.1 ∈ keys m) ++
        fields.filter fun field => field.1 ∉ keys m := by
  induction fields generalizing m with
  | nil =>
      simp
  | cons field fields ih =>
      obtain ⟨key, value⟩ := field
      rw [keys_cons, List.nodup_cons] at h
      rw [insertAll_cons, ih h.2]
      by_cases hmem : key ∈ keys m
      · simp [hmem, keys_insert_of_mem hmem]
      · have hkeys (field : String × Value) (hfield : field ∈ fields) :
            field.1 ∈ keys (insert key value m) ↔ field.1 ∈ keys m := by
          have hne : field.1 ≠ key := by
            rintro rfl
            exact h.1 (mem_keys_of_mem hfield)
          rw [insert_of_not_mem hmem]
          simp [keys, hne]
        have hold : (fields.filter fun field => field.1 ∈ keys (insert key value m)) =
            fields.filter fun field => field.1 ∈ keys m :=
          List.filter_congr fun field hfield => by simp only [hkeys field hfield]
        have hnew : (fields.filter fun field => field.1 ∉ keys (insert key value m)) =
            fields.filter fun field => field.1 ∉ keys m :=
          List.filter_congr fun field hfield => by simp only [hkeys field hfield]
        rw [hold, hnew, insert_of_not_mem hmem, insertAll_append_of_mem]
        · simp [hmem]
        · simp

/-- Fields none of which is there are put behind the map. -/
theorem insertAll_of_not_mem
    (h : (keys fields).Nodup) (hnew : ∀ field ∈ fields, field.1 ∉ keys m) :
    insertAll m fields = m ++ fields := by
  have hold : (fields.filter fun field => field.1 ∈ keys m) = [] := by
    simpa [List.filter_eq_nil_iff] using hnew
  have hall : (fields.filter fun field => field.1 ∉ keys m) = fields := by
    simpa [List.filter_eq_self] using hnew
  rw [insertAll_eq h, hold, hall, insertAll_nil]

/-- Nothing but other new fields stands behind a new field. -/
theorem exists_insertAll_eq_append
    (h : (keys fields).Nodup) (hnew : key ∉ keys m) (hmem : (key, value) ∈ fields) :
    ∃ before after, insertAll m fields = before ++ (key, value) :: after ∧
      ∀ field ∈ after, field ∈ fields ∧ key ≠ field.1 := by
  have hrest : (key, value) ∈ fields.filter fun field => field.1 ∉ keys m := by
    simp [hmem, hnew]
  obtain ⟨before, after, hsplit⟩ := List.append_of_mem hrest
  have hapart : (keys (before ++ (key, value) :: after)).Nodup :=
    hsplit ▸ h.sublist (List.Sublist.map _ List.filter_sublist)
  rw [keys_append, keys_cons, List.nodup_append, List.nodup_cons] at hapart
  refine ⟨insertAll m (fields.filter fun field => field.1 ∈ keys m) ++ before, after, ?_, ?_⟩
  · rw [insertAll_eq h, hsplit, List.append_assoc]
  · intro field hfield
    have hfilter : field ∈ fields.filter fun field => field.1 ∉ keys m := by
      rw [hsplit]
      simp [hfield]
    refine ⟨(List.mem_filter.1 hfilter).1, ?_⟩
    rintro rfl
    exact hapart.2.1.1 (mem_keys_of_mem hfield)

/-- What is stored under a key is the new value, or else the old one. -/
theorem get?_insertAll
    (h : (keys fields).Nodup) (m : PropertyMap) (key : String) :
    get? (insertAll m fields) key = (get? fields key).or (get? m key) := by
  induction fields generalizing m with
  | nil =>
      rfl
  | cons field fields ih =>
      obtain ⟨k, v⟩ := field
      rw [keys_cons, List.nodup_cons] at h
      rw [insertAll_cons, ih h.2]
      by_cases hk : k = key
      · subst hk
        simp [get?, get?_eq_none_iff.2 h.1]
      · simp [get?, hk, get?_insert_of_ne (Ne.symm hk)]

/-- The fields after storing others are these, and the old ones under other keys. -/
theorem mem_insertAll_iff
    (hm : (keys m).Nodup) (hfields : (keys fields).Nodup) {field : String × Value} :
    field ∈ insertAll m fields ↔ field ∈ fields ∨ field ∈ m ∧ field.1 ∉ keys fields := by
  obtain ⟨key, value⟩ := field
  rw [← get?_eq_some_iff (nodup_keys_insertAll hm fields), get?_insertAll hfields,
    ← get?_eq_some_iff hfields, ← get?_eq_some_iff hm, ← get?_eq_none_iff]
  cases get? fields key <;> simp

theorem get?_append (m rest : PropertyMap) (key : String) :
    get? (m ++ rest) key = (get? m key).or (get? rest key) := by
  induction m with
  | nil =>
      rfl
  | cons field m ih =>
      obtain ⟨k, v⟩ := field
      by_cases hk : k = key
      · simp [get?, hk]
      · simp [get?, hk, ih]

/-- What is stored under a key is the last new value, or else the old one. -/
theorem get?_insertAll_eq_or_reverse (m fields : PropertyMap) (key : String) :
    get? (insertAll m fields) key = (get? fields.reverse key).or (get? m key) := by
  induction fields generalizing m with
  | nil =>
      rfl
  | cons field fields ih =>
      obtain ⟨k, v⟩ := field
      rw [insertAll_cons, ih, List.reverse_cons, get?_append, Option.or_assoc]
      by_cases hk : k = key
      · subst hk
        simp [get?]
      · simp [get?, hk, get?_insert_of_ne (Ne.symm hk)]

theorem get?_insertAll_of_not_mem (h : key ∉ keys fields) (m : PropertyMap) :
    get? (insertAll m fields) key = get? m key := by
  have hnone : get? fields.reverse key = none := by
    rw [get?_eq_none_iff, keys, List.map_reverse, List.mem_reverse]
    exact h
  rw [get?_insertAll_eq_or_reverse, hnone, Option.none_or]

theorem get?_ofPairs (pairs : PropertyMap) (key : String) :
    get? (ofPairs pairs) key = get? pairs.reverse key := by
  rw [ofPairs, get?_insertAll_eq_or_reverse]
  exact Option.or_none

theorem insertAll_append (m fields rest : PropertyMap) :
    insertAll m (fields ++ rest) = insertAll (insertAll m fields) rest := by
  exact List.foldl_append

/-- A field that is there may be written before or after another one. -/
theorem insert_comm
    {other : String} (hne : key ≠ other) (hkey : key ∈ keys m) (value v : Value) :
    insert key value (insert other v m) = insert other v (insert key value m) := by
  induction m with
  | nil =>
      cases hkey
  | cons field m ih =>
      obtain ⟨k, w⟩ := field
      by_cases hk : k = key
      · subst hk
        simp [insert, hne]
      · have hmem : key ∈ keys m := by
          simpa [Ne.symm hk] using hkey
        by_cases ho : k = other
        · simp [insert, ho, Ne.symm hne]
        · simp [insert, hk, ho, ih hmem]

/-- A field that is there may be written before or after fields under other keys. -/
theorem insert_insertAll_comm
    (hkey : key ∈ keys m) (hfields : key ∉ keys fields) (value : Value) :
    insert key value (insertAll m fields) = insertAll (insert key value m) fields := by
  induction fields generalizing m with
  | nil =>
      rfl
  | cons field fields ih =>
      rw [keys_cons, List.mem_cons, not_or] at hfields
      have hmem : key ∈ keys (insert field.1 field.2 m) := by
        rw [keys_insert]
        split
        · exact hkey
        · exact List.mem_append_left _ hkey
      rw [insertAll_cons, ih hmem hfields.2, insert_comm hfields.1 hkey, insertAll_cons]

/-- Storing a map with one more field is storing the map and then the field. -/
theorem insertAll_insert (h : (keys fields).Nodup) (key : String) (value : Value) (m : PropertyMap) :
    insertAll m (insert key value fields) = insert key value (insertAll m fields) := by
  induction fields generalizing m with
  | nil =>
      rfl
  | cons field fields ih =>
      obtain ⟨k, v⟩ := field
      rw [keys_cons, List.nodup_cons] at h
      by_cases hk : k = key
      · subst hk
        have hmem : k ∈ keys (insert k v m) := mem_keys_of_mem (mem_of_get?_eq_some (get?_insert_self k v m))
        rw [insert, if_pos rfl, insertAll_cons, insertAll_cons, insert_insertAll_comm hmem h.1,
          insert_insert]
      · rw [insert, if_neg hk, insertAll_cons, insertAll_cons, ih h.2]

/-- Storing a map in which fields have been stored is storing the map and then the fields. -/
theorem insertAll_insertAll {acc : PropertyMap} (h : (keys acc).Nodup) (m fields : PropertyMap) :
    insertAll m (insertAll acc fields) = insertAll (insertAll m acc) fields := by
  induction fields generalizing acc with
  | nil =>
      rfl
  | cons field fields ih =>
      rw [insertAll_cons, ih (nodup_keys_insert h _ _), insertAll_insert h, insertAll_cons]

theorem nodup_keys_ofPairs (pairs : PropertyMap) : (keys (ofPairs pairs)).Nodup :=
  nodup_keys_insertAll (m := []) List.nodup_nil pairs

/-- Storing what pairs make a map of is storing the pairs. -/
theorem insertAll_ofPairs (m pairs : PropertyMap) : insertAll m (ofPairs pairs) = insertAll m pairs := by
  have hnil : (keys ([] : PropertyMap)).Nodup := List.nodup_nil
  rw [ofPairs, insertAll_insertAll hnil, insertAll_nil]

/-- Keys may be renamed before or after fields are stored under them. -/
theorem map_insertAll
    {rename : String → String} (hrename : Function.Injective rename) (m fields : PropertyMap) :
    (insertAll m fields).map (fun field => (rename field.1, field.2)) =
      insertAll (m.map fun field => (rename field.1, field.2))
        (fields.map fun field => (rename field.1, field.2)) := by
  have hinsert (key : String) (value : Value) (m : PropertyMap) :
      (insert key value m).map (fun field => (rename field.1, field.2)) =
        insert (rename key) value (m.map fun field => (rename field.1, field.2)) := by
    induction m with
    | nil =>
        rfl
    | cons field m ih =>
        obtain ⟨k, v⟩ := field
        by_cases hk : k = key
        · simp [insert, hk]
        · simp [insert, hk, hrename.ne hk, ih]
  induction fields generalizing m with
  | nil =>
      rfl
  | cons field fields ih =>
      rw [insertAll_cons, ih, hinsert, List.map_cons, insertAll_cons]

end PropertyMap
end CypherBatch
