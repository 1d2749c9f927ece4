import CypherBatch.Property.Legal
import CypherBatch.Proofs.Insertion

/-!
# Legal maps

A map is legal when it has fields, when the four fields of identity and audit are set, and
when every field can be stored.  Nothing more is asked of a field: what is stored under a
key of a map counts for its legality no more than by being set and by being a property.
-/

namespace CypherBatch
namespace PropertyMap

variable {key : String} {value : Value} {m : PropertyMap}

theorem missingFields_eq_nil_iff :
    Illegality.missingFields m = [] ↔
      ∀ key ∈ requiredFields, ∃ v, get? m key = some v ∧ v.isUnset = false := by
  unfold Illegality.missingFields
  rw [List.filter_eq_nil_iff]
  refine forall₂_congr fun key _ => ?_
  cases get? m key <;> simp

theorem badKeys_eq_nil_iff :
    Illegality.badKeys m = [] ↔ ∀ field ∈ m, field.2 = .null ∨ field.2.isProperty = true := by
  unfold Illegality.badKeys
  rw [← List.length_eq_zero_iff, List.length_mergeSort, List.length_eq_zero_iff,
    List.map_eq_nil_iff, List.filter_eq_nil_iff]
  refine forall₂_congr fun field _ => ?_
  by_cases hnull : field.2 = .null <;> simp [hnull]

/-- What is asked of a legal map. -/
theorem isLegal_iff :
    Value.isLegal (.map m) = true ↔
      m ≠ [] ∧ (∀ key ∈ requiredFields, ∃ v, get? m key = some v ∧ v.isUnset = false) ∧
        ∀ field ∈ m, field.2 = .null ∨ field.2.isProperty = true := by
  rw [← missingFields_eq_nil_iff, ← badKeys_eq_nil_iff]
  simp only [Value.isLegal, Illegality.of?, Illegality.ofMap?, List.isEmpty_iff]
  by_cases hempty : m = []
  · simp [hempty]
  by_cases hmissing : Illegality.missingFields m = []
  · by_cases hbad : Illegality.badKeys m = [] <;> simp [hempty, hmissing, hbad]
  · simp [hempty, hmissing]

/-- A legal map stays legal when a property that is set is stored in it. -/
theorem isLegal_insert
    (h : Value.isLegal (.map m) = true) (hset : value.isUnset = false)
    (hproperty : value.isProperty = true) (key : String) :
    Value.isLegal (.map (insert key value m)) = true := by
  obtain ⟨-, hfields, hstorable⟩ := isLegal_iff.1 h
  refine isLegal_iff.2 ⟨insert_ne_nil key value m, fun other hother => ?_, fun field hfield => ?_⟩
  · by_cases hkey : other = key
    · subst hkey
      exact ⟨value, get?_insert_self other value m, hset⟩
    · rw [get?_insert_of_ne hkey]
      exact hfields other hother
  · rcases mem_of_mem_insert hfield with rfl | hold
    · exact Or.inr hproperty
    · exact hstorable field hold

/-- Which text is stored under a key makes no difference to legality. -/
theorem isLegal_insert_str_eq
    {text text' : String} (h : text ≠ "") (h' : text' ≠ "") (key : String) (m : PropertyMap) :
    Value.isLegal (.map (insert key (.str text) m)) =
      Value.isLegal (.map (insert key (.str text') m)) := by
  -- Each of the two maps is made from the other one by storing the other text.
  have hstored {t t' : String} (ht : t' ≠ "")
      (hlegal : Value.isLegal (.map (insert key (.str t) m)) = true) :
      Value.isLegal (.map (insert key (.str t') m)) = true := by
    have hset : (Value.str t').isUnset = false := by
      simpa [Value.isUnset] using ht
    have hagain := isLegal_insert hlegal hset rfl key
    rwa [insert_insert] at hagain
  exact Bool.eq_iff_iff.2 ⟨hstored h', hstored h⟩

end PropertyMap
end CypherBatch
