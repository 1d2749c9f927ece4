import CypherBatch.Pattern
import CypherBatch.Proofs.Identities

/-!
# Saving again what was stored

An entity that is created has the stored map, and its provenance besides: who created it and
when, taken from the stamps of who wrote it and when.  When it is saved again, its identity
by content leaves out the stamps, but not the provenance.

So the identity text of what is saved again, whatever its stamps are by then, is that of the
map it was made from exactly when that map had the provenance recorded already.
-/

namespace CypherBatch
namespace PropertyMap

/-- The stamps that may change while the source of the identity stays. -/
def changingFields : List String :=
  ["hash", "updated_by", "updated_when"]

/-- The provenance that a new entity takes from its stored map. -/
def provenanceOf (stored : PropertyMap) : PropertyMap :=
  Pattern.provenance.filterMap fun (created, updated) =>
    (get? stored updated).map fun v => (created, v)

/-- What an entity has that was created with a stored map, once some fields were changed. -/
def laterFields (stored changes : PropertyMap) : PropertyMap :=
  insertAll (insertAll stored (provenanceOf stored)) changes

/-- The provenance of an entity that is created by somebody at some time. -/
def creation (createdBy : Value) (now : Instant) : PropertyMap :=
  [("created_by", createdBy), ("created_when", .str now.text)]

/-- Does the flat form of a map have given fields, up to their canonical texts? -/
def Recorded (p fields : PropertyMap) : Prop :=
  ∀ field ∈ fields, flatText p field.1 = some (Json.canonical field.2)

instance (p fields : PropertyMap) : Decidable (Recorded p fields) :=
  inferInstanceAs (Decidable
    (∀ field ∈ fields, flatText p field.1 = some (Json.canonical field.2)))

section Provenance

variable {key : String} {stored : PropertyMap}

theorem keys_provenanceOf_sublist (stored : PropertyMap) :
    (keys (provenanceOf stored)).Sublist ["created_by", "created_when"] := by
  cases hby : get? stored "updated_by" <;> cases hwhen : get? stored "updated_when" <;>
    simp [provenanceOf, Pattern.provenance, hby, hwhen, keys]

theorem nodup_keys_provenanceOf (stored : PropertyMap) :
    (keys (provenanceOf stored)).Nodup :=
  (keys_provenanceOf_sublist stored).nodup (by decide)

/-- No stamp is part of the provenance. -/
theorem not_mem_keys_provenanceOf (h : key ∈ requiredFields) :
    key ∉ keys (provenanceOf stored) := by
  have hapart : ∀ key ∈ requiredFields, key ∉ ["created_by", "created_when"] := by
    decide
  exact fun hmem => hapart key h ((keys_provenanceOf_sublist stored).subset hmem)

/-- The provenance is taken from the stamps of who wrote a map and when. -/
theorem provenanceOf_eq_creation
    {updatedBy : Value} {now : Instant} (hby : get? stored "updated_by" = some updatedBy)
    (hwhen : get? stored "updated_when" = some (.str now.text)) :
    provenanceOf stored = creation updatedBy now := by
  simp [provenanceOf, Pattern.provenance, hby, hwhen, creation]

theorem isMap_of_mem_provenanceOf
    (h : ∀ field ∈ stored, field.2.isMap = false) {field : String × Value}
    (hfield : field ∈ provenanceOf stored) :
    field.2.isMap = false := by
  obtain ⟨⟨created, updated⟩, -, heq⟩ := List.mem_filterMap.1 hfield
  obtain ⟨v, hget, rfl⟩ := Option.map_eq_some_iff.1 heq
  exact h (updated, v) (mem_of_get?_eq_some hget)

end Provenance

section Later

variable {p stored changes : PropertyMap} (hchanges : ∀ key ∈ keys changes, key ∈ changingFields)
include hchanges

theorem not_mem_keys_changes {key : String} (h : key ∉ requiredFields ∨ key = "hash_by") :
    key ∉ keys changes := by
  have hstamp : ∀ key ∈ changingFields, key ∈ requiredFields ∧ key ≠ "hash_by" := by
    decide
  intro hmem
  obtain ⟨hrequired, hne⟩ := hstamp key (hchanges key hmem)
  exact h.elim (fun hnot => hnot hrequired) hne

/-- What is saved again names the content as the source of its identity. -/
theorem choose_laterFields
    (hnodup : (keys stored).Nodup)
    (hsource : get? stored "hash_by" = some (.str Identity.contentName)) :
    Identity.choose .null (flatten separator (laterFields stored changes)) = .ok .content := by
  have hlater : get? (laterFields stored changes) "hash_by" = some (.str Identity.contentName) := by
    rw [laterFields, get?_insertAll_of_not_mem (not_mem_keys_changes hchanges (Or.inr rfl)),
      get?_insertAll_of_not_mem (not_mem_keys_provenanceOf (by decide)), hsource]
  have hdistinct : (keys (laterFields stored changes)).Nodup :=
    nodup_keys_insertAll (nodup_keys_insertAll hnodup _) _
  have hflat : get? (flatten separator (laterFields stored changes)) "hash_by" =
      some (.str Identity.contentName) := by
    rw [get?_flatten_of_mem_requiredFields hdistinct (by decide), hlater]
    rfl
  simp [Identity.choose, Identity.requested, hflat, Value.isVacant]

/-- Besides the stamps, an entity has its provenance and what it was created with. -/
theorem get?_laterFields {key : String} (h : key ∉ requiredFields) :
    get? (laterFields stored changes) key =
      (get? (provenanceOf stored) key).or (get? stored key) := by
  rw [laterFields, get?_insertAll_of_not_mem (not_mem_keys_changes hchanges (Or.inl h)),
    get?_insertAll (nodup_keys_provenanceOf stored)]

/-- The identity text is kept exactly by those maps that had the provenance already. -/
theorem identityText_laterFields_eq_iff
    (hnodup : (keys stored).Nodup) (hstored : ∀ field ∈ stored, field.2.isMap = false)
    (hkept : ∀ key, key ∉ requiredFields → get? stored key = get? (flatten separator p) key)
    (hvalues : ∀ field ∈ changes, field.2.isMap = false) :
    identityText (laterFields stored changes) = identityText p ↔
      Recorded p (provenanceOf stored) := by
  have hflat : flatten separator (laterFields stored changes) = laterFields stored changes := by
    refine flatten_eq_self (nodup_keys_insertAll (nodup_keys_insertAll hnodup _) _)
      fun field hfield => ?_
    rcases mem_of_mem_insertAll hfield with hchange | hfield
    · exact hvalues field hchange
    · rcases mem_of_mem_insertAll hfield with hnew | hold
      · exact isMap_of_mem_provenanceOf hstored hnew
      · exact hstored field hold
  have htext {key : String} (h : key ∉ requiredFields) :
      flatText (laterFields stored changes) key =
        ((get? (provenanceOf stored) key).or (get? (flatten separator p) key)).map
          Json.canonical := by
    rw [flatText, hflat, get?_laterFields hchanges h, hkept key h]
  rw [identityText_eq_iff]
  constructor
  · intro h field hfield
    have hnot : field.1 ∉ requiredFields := fun hstamp =>
      not_mem_keys_provenanceOf hstamp (mem_keys_of_mem hfield)
    have hget := (get?_eq_some_iff (nodup_keys_provenanceOf stored)).2 hfield
    rw [← h field.1 hnot, htext hnot, hget, Option.some_or, Option.map_some]
  · intro h key hnot
    rw [htext hnot]
    cases hget : get? (provenanceOf stored) key with
    | none =>
        rw [Option.none_or, flatText]
    | some v =>
        rw [Option.some_or, Option.map_some, h _ (mem_of_get?_eq_some hget)]

end Later

/-- When what was stored is saved again as the same entity.

A map that has its identity by content is stored, an entity is created with it, and some of
the changing stamps may be replaced.  Saved again, the entity has its identity by content,
too.  If no map is put in, its identity text is the one before exactly when the map had the
provenance recorded already.
-/
theorem resaved_identity_iff
    {p : PropertyMap} {hashBy updatedBy : Value}
    (hcontent : Identity.choose hashBy (flatten separator p) = .ok .content)
    (hby : updatedBy.isMap = false) (now : Instant) :
    ∃ stored, legalize hashBy updatedBy now p = .ok stored ∧
      get? stored "hash" = some (contentDigest p) ∧
      ∀ changes : PropertyMap, (∀ key ∈ keys changes, key ∈ changingFields) →
        ∀ updatedBy' now', ∃ resaved,
          legalize .null updatedBy' now' (laterFields stored changes) = .ok resaved ∧
          get? resaved "hash" = some (contentDigest (laterFields stored changes)) ∧
          ((∀ field ∈ changes, field.2.isMap = false) →
            (identityText (laterFields stored changes) = identityText p ↔
              Recorded p (creation updatedBy now)) ∧
            (Recorded p (creation updatedBy now) →
              get? resaved "hash" = get? stored "hash")) := by
  obtain ⟨stored, hstored, heq, hhash⟩ := legalize_of_content hcontent updatedBy now
  have hnodup : (keys stored).Nodup :=
    heq ▸ nodup_keys_insertAll (nodup_keys_flatten separator p) _
  have hstamp (key : String) :
      get? stored key = (get? (stamps .content updatedBy now (flatten separator p)) key).or
        (get? (flatten separator p) key) := by
    rw [heq, get?_insertAll nodup_keys_stamps]
  have hprovenance : provenanceOf stored = creation updatedBy now :=
    provenanceOf_eq_creation (hstamp "updated_by") (hstamp "updated_when")
  have hmaps (field : String × Value) (hfield : field ∈ stored) : field.2.isMap = false := by
    rcases mem_of_mem_insertAll (heq ▸ hfield) with hnew | hflat
    · exact isMap_of_mem_stamps (fun _ => isMap_of_mem_flatten) hby hnew
    · exact isMap_of_mem_flatten hflat
  have hkept (key : String) (h : key ∉ requiredFields) :
      get? stored key = get? (flatten separator p) key := by
    rw [heq, get?_insertAll_of_not_mem (by rwa [keys_stamps])]
  refine ⟨stored, hstored, hhash, fun changes hchanges updatedBy' now' => ?_⟩
  obtain ⟨resaved, hresaved, -, hhash'⟩ :=
    legalize_of_content (choose_laterFields hchanges hnodup (hstamp "hash_by")) updatedBy' now'
  refine ⟨resaved, hresaved, hhash', fun hvalues => ?_⟩
  have hiff := identityText_laterFields_eq_iff hchanges hnodup hmaps hkept hvalues
  rw [hprovenance] at hiff
  refine ⟨hiff, fun hrecorded => ?_⟩
  rw [hhash, hhash', contentDigest, contentDigest, hiff.2 hrecorded]

/-- A map that has the provenance of an entity already, and one with a field under it. -/
def copiedTrack : PropertyMap :=
  [("created_when", .str "1970-01-01T00:00:00+00:00"), ("a", .map [("b", .int 1)]),
    ("created_by", .str "bot"), ("hash", .map [("x", .null)])]

/-- Other stamps do not change the identity of such a map. -/
theorem copied_track_is_found_again :
    Identity.choose (.str "content") (flatten separator copiedTrack) = .ok .content ∧
    Value.isMap (.str "bot") = false ∧
    (∀ key ∈ keys [("updated_by", .str "ann"), ("hash", .int 0)], key ∈ changingFields) ∧
    Recorded copiedTrack (creation (.str "bot") ⟨0⟩) ∧
    ∃ stored resaved, legalize (.str "content") (.str "bot") ⟨0⟩ copiedTrack = .ok stored ∧
      legalize .null (.str "eve") ⟨1⟩
        (laterFields stored [("updated_by", .str "ann"), ("hash", .int 0)]) = .ok resaved ∧
      get? resaved "hash" = get? stored "hash" := by
  have hcontent : Identity.choose (.str "content") (flatten separator copiedTrack) =
      .ok .content := by
    decide +kernel
  have hby : Value.isMap (.str "bot") = false := by
    rfl
  have hchanges : ∀ key ∈ keys [("updated_by", .str "ann"), ("hash", .int 0)],
      key ∈ changingFields := by
    decide
  have hrecorded : Recorded copiedTrack (creation (.str "bot") ⟨0⟩) := by
    decide +kernel
  obtain ⟨stored, hstored, -, hlater⟩ := resaved_identity_iff hcontent hby ⟨0⟩
  obtain ⟨resaved, hresaved, -, hsame⟩ := hlater _ hchanges (.str "eve") ⟨1⟩
  exact ⟨hcontent, hby, hchanges, hrecorded, stored, resaved, hstored, hresaved,
    (hsame (by decide)).2 hrecorded⟩

def newTrack : PropertyMap :=
  [("a", .int 1)]

def storedTrack : PropertyMap :=
  [("a", .int 1), ("hash_by", .str "content"),
    ("hash", .str "015abd7f5cc57a2dd94b7590f04ad8084273905ee33ec5cebeae62276a97f862"),
    ("updated_by", .str "bot"), ("updated_when", .str "1970-01-01T00:00:00+00:00")]

/-- A map that knows nothing of its provenance gets another identity when it is saved again. -/
theorem new_track_is_not_found_again :
    Identity.choose .null (flatten separator newTrack) = .ok .content ∧
    legalize .null (.str "bot") ⟨0⟩ newTrack = .ok storedTrack ∧
    ∃ resaved, legalize .null (.str "bot") ⟨0⟩ (laterFields storedTrack []) = .ok resaved ∧
      get? resaved "hash" ≠ get? storedTrack "hash" := by
  have hcontent : Identity.choose .null (flatten separator (laterFields storedTrack [])) =
      .ok .content := by
    decide +kernel
  obtain ⟨resaved, hresaved, -, hhash⟩ := legalize_of_content hcontent (.str "bot") ⟨0⟩
  refine ⟨by decide +kernel, by decide +kernel, resaved, hresaved, ?_⟩
  have hfields : identityFields (flatten separator (laterFields storedTrack [])) =
      ("a", .int 1) :: creation (.str "bot") ⟨0⟩ := by
    decide +kernel
  have htext : identityText (laterFields storedTrack []) = Json.print
      (.map (("a", .int 1) :: creation (.str "bot") ⟨0⟩)) := by
    rw [identityText, hfields, Json.canonical, Json.sorted,
      List.mergeSort_of_pairwise (by decide +kernel)]
    rfl
  rw [hhash, contentDigest, htext]
  decide +kernel

end PropertyMap
end CypherBatch
