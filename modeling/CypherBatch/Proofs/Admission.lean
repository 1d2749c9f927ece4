import CypherBatch.Proofs.Identities
import CypherBatch.Proofs.Legality

/-!
# Which stored maps are legal

Stamping a map does not yet make it legal.  The stamps of source and time are always set,
but who writes may be empty, and the identity is taken from a field that may hold anything.
What else the flat map has stays as it is, and may be a list that cannot be stored.

A stored map is legal exactly when none of these is the case.  What the map had under the
keys of the stamps counts no more, unless the identity is taken from it.
-/

namespace CypherBatch

namespace PropertyMap

section Stored

variable {flat : PropertyMap} {identity : Identity}

/-- The stamps are set if somebody writes and the identity is set. -/
theorem stamps_set_iff
    (hname : identity.name ≠ "") (writer : String) (now : Instant) (flat : PropertyMap) :
    (∀ key ∈ requiredFields, ∃ v,
        get? (insertAll flat (stamps identity (.str writer) now flat)) key = some v ∧
          v.isUnset = false) ↔
      writer ≠ "" ∧ (identity.value flat).isUnset = false := by
  simp only [get?_stamped]
  simp [requiredFields, stamps, get?, Value.isUnset, hname, now.text_ne_empty, and_comm]

/-- The fields can be stored if the identity can, and the flat ones under other keys. -/
theorem storable_stored_iff
    (hflat : (keys flat).Nodup) (identity : Identity) (writer : String) (now : Instant) :
    (∀ field ∈ insertAll flat (stamps identity (.str writer) now flat),
        field.2 = .null ∨ field.2.isProperty = true) ↔
      (identity.value flat = .null ∨ (identity.value flat).isProperty = true) ∧
        ∀ field ∈ flat, field.1 ∉ requiredFields →
          field.2 = .null ∨ field.2.isProperty = true := by
  have htext (text : String) : (Value.str text).isProperty = true := rfl
  simp only [mem_insertAll_iff hflat nodup_keys_stamps, keys_stamps, or_imp, forall_and]
  refine and_congr ?_ (forall_congr' fun field => and_imp)
  simp [stamps, htext]

end Stored

/-- When a map that was made legal is accepted for a new entity.

The value of its identity is the digest of the content, or what the flat map has in the field
that the identity is taken from; the field of the source itself is read with the source stored
in it.  The map is legal exactly when somebody writes it, its identity is set and can be stored,
and every field of the flat map under another key than those of the stamps is null or can be
stored.
-/
theorem stored_isLegal_iff
    {m stored : PropertyMap} {hashBy : Value} {writer : String} {now : Instant}
    (h : legalize hashBy (.str writer) now m = .ok stored) :
    ∃ identity v, Identity.choose hashBy (flatten separator m) = .ok identity ∧
      get? stored "hash" = some v ∧
      (identity = .content → v = contentDigest m) ∧
      (∀ name, identity = .field name → name ≠ "hash_by" →
        get? (flatten separator m) name = some v) ∧
      (identity = .field "hash_by" → v = .str "hash_by") ∧
      (Value.isLegal (.map stored) = true ↔
        writer ≠ "" ∧ v.isUnset = false ∧ v.isProperty = true ∧
          ∀ field ∈ flatten separator m, field.1 ∉ requiredFields →
            field.2 = .null ∨ field.2.isProperty = true) := by
  obtain ⟨identity, hidentity, rfl⟩ := legalize_eq_ok_iff.1 h
  have hhash := get?_hash_stamped identity (.str writer) now (flatten separator m)
  refine ⟨identity, identity.value (flatten separator m), hidentity, hhash, ?_, ?_, ?_, ?_⟩
  · rintro rfl
    rfl
  · rintro name rfl hne
    obtain ⟨v, hget⟩ := Identity.exists_get?_of_choose hidentity
    rw [Identity.value_field hne, hget, Option.getD_some]
  · rintro rfl
    exact Identity.value_field_hash_by _
  · have hfilled : insertAll (flatten separator m)
        (stamps identity (.str writer) now (flatten separator m)) ≠ [] := by
      intro hnil
      rw [hnil] at hhash
      cases hhash
    have hnull {v : Value} (hv : v.isUnset = false) : v ≠ .null := by
      rintro rfl
      cases hv
    rw [isLegal_iff, stamps_set_iff (Identity.name_ne_empty hidentity),
      storable_stored_iff (nodup_keys_flatten separator m)]
    constructor
    · rintro ⟨-, ⟨hwriter, hset⟩, hvalue, hfields⟩
      exact ⟨hwriter, hset, hvalue.resolve_left (hnull hset), hfields⟩
    · rintro ⟨hwriter, hset, hvalue, hfields⟩
      exact ⟨hfilled, ⟨hwriter, hset⟩, Or.inr hvalue, hfields⟩

/-- A map with its identity in a field that is stamped over, and with maps and lists in others. -/
def reviewedTrack : PropertyMap :=
  [("updated_by", .list [.str "ann", .str "eve"]), ("hash", .map [("x", .null)]),
    ("slack", .map [("id", .int 7), ("tags", .list [])]), ("updated_when", .list [.null])]

def reviewedTrackStored : PropertyMap :=
  [("updated_by", .str "bot"), ("hash__x", .null), ("slack__id", .int 7),
    ("slack__tags", .list []), ("updated_when", .str "1970-01-01T00:00:00+00:00"),
    ("hash_by", .str "updated_by"), ("hash", .list [.str "ann", .str "eve"])]

/-- It is legal, since what cannot be stored is stamped over. -/
theorem reviewed_track_is_legal :
    legalize (.str "updated_by") (.str "bot") ⟨0⟩ reviewedTrack = .ok reviewedTrackStored ∧
      Value.isLegal (.map reviewedTrackStored) = true := by
  have hstored : legalize (.str "updated_by") (.str "bot") ⟨0⟩ reviewedTrack =
      .ok reviewedTrackStored := by
    decide +kernel
  have hsource : Identity.choose (.str "updated_by") (flatten separator reviewedTrack) =
      .ok (.field "updated_by") := by
    decide +kernel
  have hget : get? (flatten separator reviewedTrack) "updated_by" =
      some (.list [.str "ann", .str "eve"]) := by
    decide +kernel
  obtain ⟨identity, v, hidentity, -, -, hfield, -, hlegal⟩ := stored_isLegal_iff hstored
  obtain rfl := Except.ok.inj (hsource.symm.trans hidentity)
  obtain rfl := Option.some.inj (hget.symm.trans (hfield _ rfl (by decide)))
  exact ⟨hstored, hlegal.2 ⟨by decide, rfl, rfl, by decide +kernel⟩⟩

end PropertyMap
end CypherBatch
