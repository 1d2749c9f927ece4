import CypherBatch.Proofs.Stamping

/-!
# Making a stored map legal again

A stored map is flat and records where its identity is taken from.  Made legal again, by
the same writer at the same time, it has its identity taken from the same place, and all
its stamps but the value of the identity are there already.

That value is there, too, if it is taken from the content, for which stamps do not count,
or from a field that is not stamped over.  The fields of who writes and when are: an
identity that is taken from one of them is kept only if the map had the new stamp there
before.
-/

namespace CypherBatch
namespace PropertyMap

/-- What is stamped on a map when it is written. -/
def audits (updatedBy : Value) (now : Instant) : PropertyMap :=
  [("updated_by", updatedBy), ("updated_when", .str now.text)]

section Again

variable {m stored flat : PropertyMap} {hashBy updatedBy : Value} {identity : Identity}
  {now : Instant}

/-- Stamps do not count for the content. -/
theorem identityFields_stamped (identity : Identity) (updatedBy : Value) (now : Instant)
    (flat : PropertyMap) :
    identityFields (insertAll flat (stamps identity updatedBy now flat)) = identityFields flat := by
  have hkeys : ∀ key ∈ keys (stamps identity updatedBy now flat),
      (!requiredFields.contains key) = false := by
    rw [keys_stamps]
    decide
  exact filter_insertAll hkeys flat

/-- Of the stamps of a map that is stamped in the same way again, the identity may change. -/
theorem insertAll_stamps_eq_insert
    (hname : get? m "hash_by" = some (.str identity.name))
    (hby : get? m "updated_by" = some updatedBy)
    (hwhen : get? m "updated_when" = some (.str now.text)) :
    insertAll m (stamps identity updatedBy now m) = insert "hash" (identity.value m) m := by
  have hkept {key : String} {value : Value} (hne : key ≠ "hash") (h : get? m key = some value) :
      insert key value (insert "hash" (identity.value m) m) = insert "hash" (identity.value m) m :=
    insert_eq_self (by rwa [get?_insert_of_ne hne])
  simp only [stamps, insertAll_cons, insertAll_nil]
  rw [insert_eq_self hname, hkept (by decide) hby, hkept (by decide) hwhen]

/-- A stored map is made legal again by storing the identity that it has now. -/
theorem legalize_stored
    (h : legalize hashBy updatedBy now m = .ok stored) (hby : updatedBy.isMap = false) :
    ∃ identity, Identity.choose hashBy (flatten separator m) = .ok identity ∧
      stored = insertAll (flatten separator m)
        (stamps identity updatedBy now (flatten separator m)) ∧
      legalize .null updatedBy now stored = .ok (insert "hash" (identity.value stored) stored) := by
  obtain ⟨identity, hidentity, heq⟩ := legalize_eq_ok_iff.1 h
  refine ⟨identity, hidentity, heq, ?_⟩
  have hget (key : String) :
      get? stored key = (get? (stamps identity updatedBy now (flatten separator m)) key).or
        (get? (flatten separator m) key) := by
    rw [heq, get?_stamped]
  have hflat : flatten separator stored = stored := by
    rw [heq, flatten_stamped identity now m hby]
  have hkeys (key : String) (hkey : contains (flatten separator m) key = true) :
      contains stored key = true := by
    rw [contains, Option.isSome_iff_ne_none, ne_eq, get?_eq_none_iff, not_not] at hkey ⊢
    rw [heq]
    exact mem_keys_insertAll_iff.2 (Or.inl hkey)
  have hagain : Identity.choose .null (flatten separator stored) = .ok identity := by
    rw [hflat]
    exact Identity.choose_of_recorded hidentity (hget "hash_by") hkeys
  rw [legalize_eq_ok_iff]
  refine ⟨identity, hagain, ?_⟩
  rw [hflat]
  exact (insertAll_stamps_eq_insert (hget "hash_by") (hget "updated_by")
    (hget "updated_when")).symm

/-- The identity of a stored map is still the one it is stored with unless it is stamped over. -/
theorem value_stamped_eq_iff
    (hidentity : Identity.choose hashBy flat = .ok identity) :
    identity.value (insertAll flat (stamps identity updatedBy now flat)) = identity.value flat ↔
      ∀ audit ∈ audits updatedBy now, identity = .field audit.1 →
        get? flat audit.1 = some audit.2 := by
  cases identity with
  | content =>
      refine iff_of_true ?_ fun audit _ h => by cases h
      rw [Identity.value, Identity.value, identityFields_stamped]
  | field name =>
      obtain ⟨v, hv⟩ := Identity.exists_get?_of_choose hidentity
      by_cases hsource : name = "hash_by"
      · subst hsource
        refine iff_of_true ?_ ?_
        · rw [Identity.value_field_hash_by, Identity.value_field_hash_by]
        · simp [audits]
      rw [Identity.value_field hsource, get?_stamped]
      by_cases hhash : name = "hash"
      · subst hhash
        refine iff_of_true rfl ?_
        simp [audits]
      rw [Identity.value_field hsource, hv, Option.getD_some]
      by_cases hby : name = "updated_by"
      · subst hby
        have hstamp : get? (stamps (.field "updated_by") updatedBy now flat) "updated_by" =
            some updatedBy := by
          rfl
        simp [hstamp, audits, hv, eq_comm]
      by_cases hwhen : name = "updated_when"
      · subst hwhen
        have hstamp : get? (stamps (.field "updated_when") updatedBy now flat) "updated_when" =
            some (.str now.text) := by
          rfl
        simp [hstamp, audits, hv, eq_comm]
      have hother : get? (stamps (.field name) updatedBy now flat) name = none := by
        rw [get?_eq_none_iff, keys_stamps]
        simp [requiredFields, hsource, hhash, hby, hwhen]
      refine iff_of_true ?_ ?_
      · rw [hother]
        rfl
      · simp [audits, hby, hwhen]

end Again

/-- When a stored map is as it was after it is made legal again.

A stored map can always be made legal again.  With the same writer, who is no map, and at
the same time, all its fields are kept, but for the value of its identity.  That is kept
exactly when the identity is not taken from who writes or when, or the map had the same
writer or time there before.
-/
theorem legalize_again_iff
    {m stored : PropertyMap} {hashBy updatedBy : Value} {now : Instant}
    (h : legalize hashBy updatedBy now m = .ok stored) (hby : updatedBy.isMap = false) :
    ∃ again, legalize .null updatedBy now stored = .ok again ∧
      keys again = keys stored ∧ (∀ key, key ≠ "hash" → get? again key = get? stored key) ∧
      (again = stored ↔ ∀ audit ∈ audits updatedBy now,
        Identity.choose hashBy (flatten separator m) = .ok (.field audit.1) →
          get? (flatten separator m) audit.1 = some audit.2) := by
  obtain ⟨identity, hidentity, heq, hagain⟩ := legalize_stored h hby
  have hhash : get? stored "hash" = some (identity.value (flatten separator m)) := by
    rw [heq, get?_hash_stamped]
  have hmem : "hash" ∈ keys stored := mem_keys_of_mem (mem_of_get?_eq_some hhash)
  refine ⟨_, hagain, keys_insert_of_mem hmem, fun key hne => get?_insert_of_ne hne _ _, ?_⟩
  have hkept : insert "hash" (identity.value stored) stored = stored ↔
      identity.value stored = identity.value (flatten separator m) := by
    constructor
    · intro hsame
      have hget := get?_insert_self "hash" (identity.value stored) stored
      rw [hsame, hhash, Option.some.injEq] at hget
      exact hget.symm
    · intro hvalue
      rw [hvalue]
      exact insert_eq_self hhash
  rw [hkept, heq, value_stamped_eq_iff hidentity]
  simp only [hidentity, Except.ok.injEq]

/-- A map with its identity in the field of who writes it, who is the same as before. -/
def signedTrack : PropertyMap :=
  [("slack", .map [("id", .int 7), ("updated_by", .null)]), ("updated_by", .str "bot"),
    ("hash_by", .str "updated_by")]

def signedTrackStored : PropertyMap :=
  [("slack__id", .int 7), ("slack__updated_by", .null), ("updated_by", .str "bot"),
    ("hash_by", .str "updated_by"), ("hash", .str "bot"),
    ("updated_when", .str "1970-01-01T00:00:00+00:00")]

/-- It is as it was after it is made legal again. -/
theorem signed_track_is_kept :
    legalize .null (.str "bot") ⟨0⟩ signedTrack = .ok signedTrackStored ∧
      legalize .null (.str "bot") ⟨0⟩ signedTrackStored = .ok signedTrackStored := by
  have hstored : legalize .null (.str "bot") ⟨0⟩ signedTrack = .ok signedTrackStored := by
    decide +kernel
  have hsigned : ∀ audit ∈ audits (.str "bot") ⟨0⟩,
      Identity.choose .null (flatten separator signedTrack) = .ok (.field audit.1) →
        get? (flatten separator signedTrack) audit.1 = some audit.2 := by
    decide +kernel
  obtain ⟨again, hagain, -, -, hkept⟩ := legalize_again_iff hstored rfl
  rw [hkept.2 hsigned] at hagain
  exact ⟨hstored, hagain⟩

/-- A map with its identity in the field of who writes it, who is another one. -/
def countersignedTrack : PropertyMap :=
  [("updated_by", .str "ann")]

def countersignedTrackStored : PropertyMap :=
  [("updated_by", .str "bot"), ("hash_by", .str "updated_by"), ("hash", .str "ann"),
    ("updated_when", .str "1970-01-01T00:00:00+00:00")]

/-- Made legal again, it has another identity. -/
theorem countersigned_track_is_not_kept :
    legalize (.str "updated_by") (.str "bot") ⟨0⟩ countersignedTrack =
        .ok countersignedTrackStored ∧
      ∃ again, legalize .null (.str "bot") ⟨0⟩ countersignedTrackStored = .ok again ∧
        again ≠ countersignedTrackStored ∧
        get? countersignedTrackStored "hash" = some (.str "ann") ∧
        get? again "hash" = some (.str "bot") := by
  exact ⟨by decide +kernel, _, rfl, by decide +kernel, by decide +kernel, by decide +kernel⟩

end PropertyMap
end CypherBatch
