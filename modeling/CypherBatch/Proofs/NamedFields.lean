import CypherBatch.Proofs.Identities
import CypherBatch.Proofs.Stamping

/-!
# Identity by a named field

A caller names the field of the flat map that the identity is taken from.  If the field is
there, the map is stamped with its name and its value, whatever else it is stamped with: the
other stamps come later and under other keys.  If the field is not there, and only then, the
map is refused, and the refusal names the field.

One name stands for no field: it asks for the identity by content, which every map has.
-/

namespace CypherBatch

open Outcome

namespace Identity

/-- The identity that a caller asks for by name. -/
theorem choose_str {name : String} (hname : name ≠ "") (flat : PropertyMap) :
    choose (.str name) flat =
      if name = contentName then .ok .content
      else if PropertyMap.contains flat name then .ok (.field name)
      else .error (.missingField (.str name)) := by
  have hrequested : requested (.str name) flat = .str name := by
    simp [requested, Value.isVacant, hname]
  unfold choose
  rw [hrequested]
  by_cases hcontent : name = contentName <;> simp [hcontent, Value.isVacant, hname]

end Identity

namespace PropertyMap

section Named

variable {m : PropertyMap} {hashBy updatedBy : Value} {now : Instant}

/-- A map is refused exactly when it cannot be given an identity. -/
theorem legalize_eq_error_iff {e : IdentityError} :
    legalize hashBy updatedBy now m = .error e ↔
      Identity.choose hashBy (flatten separator m) = .error e := by
  simp only [legalize, bind_eq, pure_eq]
  cases Identity.choose hashBy (flatten separator m) <;> simp

/-- A map that is given an identity is stamped with its name and its value. -/
theorem exists_stamped_of_choose
    {identity : Identity} (h : Identity.choose hashBy (flatten separator m) = .ok identity)
    (updatedBy : Value) (now : Instant) :
    ∃ stored, legalize hashBy updatedBy now m = .ok stored ∧
      get? stored "hash_by" = some (.str identity.name) ∧
      get? stored "hash" = some (identity.value (flatten separator m)) := by
  refine ⟨_, legalize_eq_ok_iff.2 ⟨identity, h, rfl⟩, ?_, get?_hash_stamped _ _ _ _⟩
  rw [get?_stamped]
  rfl

end Named

/-- A map has its identity in the field that the caller names.

Under any name but that of the content, the map is refused exactly when its flat form has no
such field; else the name and the value of the field are stamped on it.  The value is read
after the name is stamped, so nothing is said here of the value of the field that holds the
name.  Under the name of the content, the digest is stamped, whether there is such a field or
not.
-/
theorem legalize_by_name
    {name : String} (hname : name ≠ "") (updatedBy : Value) (now : Instant) (m : PropertyMap) :
    (name ≠ Identity.contentName →
      (∀ e, legalize (.str name) updatedBy now m = .error e ↔
        e = .missingField (.str name) ∧ get? (flatten separator m) name = none) ∧
      ∀ v, get? (flatten separator m) name = some v →
        ∃ stored, legalize (.str name) updatedBy now m = .ok stored ∧
          get? stored "hash_by" = some (.str name) ∧
          (name ≠ "hash_by" → get? stored "hash" = some v)) ∧
    (name = Identity.contentName →
      ∃ stored, legalize (.str name) updatedBy now m = .ok stored ∧
        get? stored "hash_by" = some (.str name) ∧
        get? stored "hash" = some (contentDigest m)) := by
  have hchoose := Identity.choose_str hname (flatten separator m)
  refine ⟨fun hfield => ⟨fun e => ?_, fun v hv => ?_⟩, ?_⟩
  · rw [legalize_eq_error_iff, hchoose, if_neg hfield, contains]
    cases get? (flatten separator m) name with
    | none =>
        simp [eq_comm]
    | some v =>
        simp
  · rw [if_neg hfield, contains, hv, Option.isSome_some, if_pos rfl] at hchoose
    obtain ⟨stored, hstored, hsource, hvalue⟩ := exists_stamped_of_choose hchoose updatedBy now
    refine ⟨stored, hstored, hsource, fun hother => ?_⟩
    rw [hvalue, Identity.value_field hother, hv, Option.getD_some]
  · rintro rfl
    rw [if_pos rfl] at hchoose
    exact exists_stamped_of_choose hchoose updatedBy now

/-- A map with its identity in a field of a map inside it, and with another one recorded. -/
def renamedTrack : PropertyMap :=
  [("slack", .map [("id", .int 7), ("hash", .null)]), ("hash_by", .str "slack__hash"),
    ("updated_when", .list [.str "slack__id"])]

/-- The field that the caller names counts, also one that is stamped over. -/
theorem renamed_track_is_stamped :
    (∃ stored, legalize (.str "slack__id") .null ⟨0⟩ renamedTrack = .ok stored ∧
      get? stored "hash_by" = some (.str "slack__id") ∧ get? stored "hash" = some (.int 7)) ∧
    (∃ stored, legalize (.str "updated_when") .null ⟨0⟩ renamedTrack = .ok stored ∧
      get? stored "hash_by" = some (.str "updated_when") ∧
      get? stored "hash" = some (.list [.str "slack__id"])) ∧
    legalize (.str "id") .null ⟨0⟩ renamedTrack = .error (.missingField (.str "id")) := by
  have hid := (legalize_by_name (show "slack__id" ≠ "" by decide) .null ⟨0⟩ renamedTrack).1
    (by decide)
  have hwhen := (legalize_by_name (show "updated_when" ≠ "" by decide) .null ⟨0⟩ renamedTrack).1
    (by decide)
  have hmissing := (legalize_by_name (show "id" ≠ "" by decide) .null ⟨0⟩ renamedTrack).1
    (by decide)
  refine ⟨?_, ?_, (hmissing.1 _).2 ⟨rfl, by decide +kernel⟩⟩
  · obtain ⟨stored, hstored, hsource, hvalue⟩ := hid.2 (.int 7) (by decide +kernel)
    exact ⟨stored, hstored, hsource, hvalue (by decide)⟩
  · obtain ⟨stored, hstored, hsource, hvalue⟩ :=
      hwhen.2 (.list [.str "slack__id"]) (by decide +kernel)
    exact ⟨stored, hstored, hsource, hvalue (by decide)⟩

/-- The name of the content stands for no field: no map is refused for lack of it, and none has
its identity in it. -/
theorem content_is_no_field :
    (get? (flatten separator [("k", .int 1)]) "content" = none ∧
      ∃ stored, legalize (.str "content") (.str "bot") ⟨0⟩ [("k", .int 1)] = .ok stored) ∧
    get? (flatten separator [("content", .int 1)]) "content" = some (.int 1) ∧
      ∃ stored, legalize (.str "content") (.str "bot") ⟨0⟩ [("content", .int 1)] = .ok stored ∧
        get? stored "hash" ≠ some (.int 1) := by
  refine ⟨⟨by decide +kernel, _, rfl⟩, by decide +kernel, ?_⟩
  have hcontent : Identity.choose (.str "content") (flatten separator [("content", .int 1)]) =
      .ok .content := by
    decide +kernel
  obtain ⟨stored, hstored, -, hvalue⟩ := exists_stamped_of_choose hcontent (.str "bot") ⟨0⟩
  refine ⟨stored, hstored, ?_⟩
  rw [hvalue]
  simp [Identity.value]

end PropertyMap
end CypherBatch
