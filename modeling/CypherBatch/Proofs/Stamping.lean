import CypherBatch.Property.Legalize
import CypherBatch.Proofs.Flattening
import CypherBatch.Proofs.Outcomes

/-!
# Stamped maps

A map is made legal by storing four fields in its flat map, its stamps: what its
identity is taken from, the value of the identity, who writes it and when.
-/

namespace CypherBatch

open Outcome

/-- The value of an identity in a flat map. -/
def Identity.value (identity : Identity) (flat : PropertyMap) : Value :=
  match identity with
  | content => .str (contentHash (.map (PropertyMap.identityFields flat)))
  | field name =>
      (PropertyMap.get? (PropertyMap.insert "hash_by" (.str name) flat) name).getD .null

namespace Identity

variable {hashBy : Value} {flat flat' : PropertyMap} {identity : Identity}

/-- Where an identity is taken from: the content, or a field that is there. -/
theorem choose_eq_ok_iff :
    choose hashBy flat = .ok identity ↔
      (identity = .content ∧
        ((requested hashBy flat).isVacant = true ∨ requested hashBy flat = .str contentName)) ∨
      ∃ name, identity = .field name ∧ requested hashBy flat = .str name ∧ name ≠ "" ∧
        name ≠ contentName ∧ PropertyMap.contains flat name = true := by
  unfold choose
  generalize requested hashBy flat = source
  by_cases hcontent : source.isVacant = true ∨ source = .str contentName
  · have hname {name : String} (h : source = .str name) : name = "" ∨ name = contentName := by
      simpa [h, Value.isVacant] using hcontent
    simp only [hcontent, if_true, Except.ok.injEq]
    constructor
    · rintro rfl
      exact Or.inl ⟨rfl, trivial⟩
    · rintro (⟨rfl, -⟩ | ⟨name, -, hsource, hne, hne', -⟩)
      · rfl
      · exact absurd (hname hsource) (by simp [hne, hne'])
  · simp only [hcontent, if_false, and_false, false_or]
    cases source with
    | str name =>
        have hne : name ≠ "" ∧ name ≠ contentName := by
          simpa [Value.isVacant] using hcontent
        dsimp only
        split
        · rename_i hflat
          constructor
          · intro h
            obtain rfl := Except.ok.inj h
            exact ⟨name, rfl, rfl, hne.1, hne.2, hflat⟩
          · rintro ⟨other, rfl, hsource, -⟩
            cases hsource
            rfl
        · rename_i hflat
          refine iff_of_false (by simp) ?_
          rintro ⟨other, rfl, hsource, -, -, hother⟩
          cases hsource
          exact hflat hother
    | null | bool | int | float | list | map =>
        simp

/-- The name of an identity is never empty. -/
theorem name_ne_empty (h : choose hashBy flat = .ok identity) : identity.name ≠ "" := by
  rcases choose_eq_ok_iff.1 h with ⟨rfl, -⟩ | ⟨name, rfl, -, hne, -⟩
  · exact (by decide : contentName ≠ "")
  · exact hne

/-- The field that an identity is taken from is there. -/
theorem exists_get?_of_choose
    {name : String} (h : choose hashBy flat = .ok (.field name)) :
    ∃ v, PropertyMap.get? flat name = some v := by
  rcases choose_eq_ok_iff.1 h with ⟨hcontent, -⟩ | ⟨other, heq, -, -, -, hflat⟩
  · cases hcontent
  · cases heq
    exact Option.isSome_iff_exists.1 hflat

theorem value_field {name : String} (hne : name ≠ "hash_by") (flat : PropertyMap) :
    (field name).value flat = (PropertyMap.get? flat name).getD .null := by
  rw [value, PropertyMap.get?_insert_of_ne hne]

/-- The field of the source is read with the source stored in it. -/
theorem value_field_hash_by (flat : PropertyMap) :
    (field "hash_by").value flat = .str "hash_by" := by
  rw [value, PropertyMap.get?_insert_self]
  rfl

/-- A map that records an identity chosen before has it chosen again. -/
theorem choose_of_recorded
    (h : choose hashBy flat = .ok identity)
    (hname : PropertyMap.get? flat' "hash_by" = some (.str identity.name))
    (hkeys : ∀ key, PropertyMap.contains flat key = true → PropertyMap.contains flat' key = true) :
    choose .null flat' = .ok identity := by
  have hrequested : requested .null flat' = .str identity.name := by
    simp [requested, Value.isVacant, hname]
  rw [choose_eq_ok_iff, hrequested]
  rcases choose_eq_ok_iff.1 h with ⟨rfl, -⟩ | ⟨name, rfl, -, hne, hne', hflat⟩
  · exact Or.inl ⟨rfl, Or.inr rfl⟩
  · exact Or.inr ⟨name, rfl, rfl, hne, hne', hkeys name hflat⟩

end Identity

namespace PropertyMap

/-- The identity and audit fields of a map. -/
def stamps (identity : Identity) (updatedBy : Value) (now : Instant) (flat : PropertyMap) :
    PropertyMap :=
  [("hash_by", .str identity.name), ("hash", identity.value flat), ("updated_by", updatedBy),
    ("updated_when", .str now.text)]

section Stamps

variable {identity : Identity} {updatedBy hashBy : Value} {now : Instant}
  {m flat stored : PropertyMap}

@[simp] theorem keys_stamps : keys (stamps identity updatedBy now flat) = requiredFields := by
  rfl

theorem nodup_requiredFields : requiredFields.Nodup := by
  decide

theorem nodup_keys_stamps : (keys (stamps identity updatedBy now flat)).Nodup :=
  nodup_requiredFields

/-- A map is legalized by storing its stamps. -/
theorem legalize_eq_ok_iff :
    legalize hashBy updatedBy now m = .ok stored ↔
      ∃ identity, Identity.choose hashBy (flatten separator m) = .ok identity ∧
        stored = insertAll (flatten separator m)
          (stamps identity updatedBy now (flatten separator m)) := by
  have hstamp (identity : Identity) (flat : PropertyMap) :
      stampAudit updatedBy now (stampIdentity identity flat) =
        insertAll flat (stamps identity updatedBy now flat) := by
    cases identity <;> rfl
  simp only [legalize, bind_eq, pure_eq, bind_eq_ok_iff, hstamp, Except.ok.injEq]
  constructor
  · rintro ⟨identity, hidentity, rfl⟩
    exact ⟨identity, hidentity, rfl⟩
  · rintro ⟨identity, hidentity, rfl⟩
    exact ⟨identity, hidentity, rfl⟩

/-- No map is stamped on a flat map, unless it is who writes it. -/
theorem isMap_of_mem_stamps
    (hflat : ∀ field ∈ flat, field.2.isMap = false) (hby : updatedBy.isMap = false)
    {field : String × Value} (h : field ∈ stamps identity updatedBy now flat) :
    field.2.isMap = false := by
  have hvalue : (identity.value flat).isMap = false := by
    cases identity with
    | content =>
        rfl
    | field name =>
        rw [Identity.value]
        cases hget : get? (insert "hash_by" (.str name) flat) name with
        | none =>
            rfl
        | some v =>
            rcases mem_of_mem_insert (mem_of_get?_eq_some hget) with heq | hmem
            · cases heq
              rfl
            · exact hflat _ hmem
  simp only [stamps, List.mem_cons, List.not_mem_nil, or_false] at h
  rcases h with rfl | rfl | rfl | rfl
  · rfl
  · exact hvalue
  · exact hby
  · rfl

/-- Under a key of a stored map there is its stamp, or else what the flat map has there. -/
theorem get?_stamped
    (identity : Identity) (updatedBy : Value) (now : Instant) (flat : PropertyMap)
    (key : String) :
    get? (insertAll flat (stamps identity updatedBy now flat)) key =
      (get? (stamps identity updatedBy now flat) key).or (get? flat key) :=
  get?_insertAll nodup_keys_stamps flat key

theorem get?_hash_stamped
    (identity : Identity) (updatedBy : Value) (now : Instant) (flat : PropertyMap) :
    get? (insertAll flat (stamps identity updatedBy now flat)) "hash" =
      some (identity.value flat) := by
  rw [get?_stamped]
  rfl

/-- A stored map is flat, unless it is written by a map. -/
theorem flatten_stamped
    (identity : Identity) (now : Instant) (m : PropertyMap) (hby : updatedBy.isMap = false) :
    flatten separator (insertAll (flatten separator m)
        (stamps identity updatedBy now (flatten separator m))) =
      insertAll (flatten separator m) (stamps identity updatedBy now (flatten separator m)) := by
  refine flatten_eq_self (nodup_keys_insertAll (nodup_keys_flatten separator m) _)
    fun field hfield => ?_
  rcases mem_of_mem_insertAll hfield with hnew | hold
  · exact isMap_of_mem_stamps (fun _ => isMap_of_mem_flatten) hby hnew
  · exact isMap_of_mem_flatten hold

end Stamps

end PropertyMap
end CypherBatch
