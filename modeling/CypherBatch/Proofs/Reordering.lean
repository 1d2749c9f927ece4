import CypherBatch.Proofs.Canonical
import CypherBatch.Proofs.Conflicts

/-!
# Reordered keys

Values that are equal up to the order of keys have the same leaves, up to their canonical
texts: what is found at a path in one is found there in the other.

Which of several leaves stands last depends on the order alone.  Each leaf of a value can be
brought to the end, if at every level on its path the key is put behind the others.
-/

namespace CypherBatch

namespace PropertyMap

variable {key : String} {m : PropertyMap}

/-- The fields of a map but for those under a key. -/
def without (key : String) (m : PropertyMap) : PropertyMap :=
  m.filter fun field => field.1 ≠ key

theorem mem_without_iff {field : String × Value} :
    field ∈ without key m ↔ field ∈ m ∧ field.1 ≠ key := by
  simp [without]

theorem get?_without (key : String) (m : PropertyMap) (other : String) :
    get? (without key m) other = if other ≠ key then get? m other else none := by
  rw [without, get?_filter (· ≠ key)]
  simp only [decide_eq_true_eq]

theorem nodup_keys_without (h : (keys m).Nodup) : (keys (without key m)).Nodup :=
  nodup_keys_filter h (· ≠ key)

theorem not_mem_keys_without : key ∉ keys (without key m) := by
  rw [← get?_eq_none_iff, get?_without, if_neg (not_not_intro rfl)]

end PropertyMap

namespace Value

variable {v w x : Value} {path : List String} {key : String} {fields : PropertyMap}

theorem distinct_of_hasDistinctKeys (h : v.hasDistinctKeys = true) : Distinct v := by
  induction v using mapInduction with
  | other v hv =>
      exact distinct_of_not_map hv
  | map fields ih =>
      rw [hasDistinctKeys_map_iff] at h
      exact distinct_map_iff.2 ⟨h.1, fun field hfield => ih field hfield (h.2 field hfield)⟩

section Texts

theorem isMap_iff_opening : v.isMap = true ↔ Json.opening v = Json.opening (.map []) := by
  cases v <;> simp [isMap, Json.opening]

theorem isMap_eq_of_canonical_eq (h : Json.canonical v = Json.canonical w) : v.isMap = w.isMap := by
  rw [Bool.eq_iff_iff, isMap_iff_opening, isMap_iff_opening, Json.opening_eq_of_canonical_eq h]

/-- In values with one canonical text, what is found at a path has one canonical text, too. -/
theorem map_canonical_at?_eq
    (hv : v.hasDistinctKeys = true) (hw : w.hasDistinctKeys = true)
    (h : Json.canonical v = Json.canonical w) (path : List String) :
    (at? path v).map Json.canonical = (at? path w).map Json.canonical := by
  induction path generalizing v w with
  | nil =>
      exact congrArg some h
  | cons key path ih =>
      have hsame := isMap_eq_of_canonical_eq h
      cases v with
      | map fs =>
          cases w with
          | map gs =>
              rw [hasDistinctKeys_map_iff] at hv hw
              have hkey := (Json.canonical_map_eq_iff hv.1 hw.1).1 h key
              rw [PropertyMap.at?_cons, PropertyMap.at?_cons]
              cases hfs : PropertyMap.get? fs key with
              | none =>
                  rw [hfs, Option.map_none, eq_comm, Option.map_eq_none_iff] at hkey
                  rw [hkey]
              | some x =>
                  rw [hfs, Option.map_some, eq_comm, Option.map_eq_some_iff] at hkey
                  obtain ⟨y, hgs, htext⟩ := hkey
                  rw [hgs, Option.bind_some, Option.bind_some]
                  exact ih (hv.2 _ (PropertyMap.mem_of_get?_eq_some hfs))
                    (hw.2 _ (PropertyMap.mem_of_get?_eq_some hgs)) htext.symm
          | null | bool | int | float | str | list =>
              cases hsame
      | null | bool | int | float | str | list =>
          rw [PropertyMap.at?_cons_of_not_map rfl, PropertyMap.at?_cons_of_not_map hsame.symm]

/-- Values with one canonical text have leaves with one canonical text at the same paths. -/
theorem exists_mem_leaves_of_canonical_eq
    (hv : v.hasDistinctKeys = true) (hw : w.hasDistinctKeys = true)
    (h : Json.canonical v = Json.canonical w) {leaf : List String × Value}
    (hleaf : leaf ∈ leaves v) :
    ∃ y, (leaf.1, y) ∈ leaves w ∧ Json.canonical leaf.2 = Json.canonical y := by
  have hpath := map_canonical_at?_eq hv hw h leaf.1
  rw [at?_of_mem_leaves (distinct_of_hasDistinctKeys hv) hleaf, Option.map_some, eq_comm,
    Option.map_eq_some_iff] at hpath
  obtain ⟨y, hfound, htext⟩ := hpath
  have hy : y.isMap = false := by
    rw [isMap_eq_of_canonical_eq htext, isMap_of_mem_leaves hleaf]
  exact ⟨y, mem_leaves_of_at? hy hfound, htext.symm⟩

end Texts

section Moving

theorem alike_refl (h : v.hasDistinctKeys = true) : v.alike v = true := by
  induction v using treeInduction with
  | atom v hatom =>
      exact (alike_iff_of_isAtom hatom).2 rfl
  | str s =>
      exact alike_str_iff.2 rfl
  | list items ih =>
      rw [hasDistinctKeys_list_iff] at h
      exact alike_list_iff.2 ⟨items, rfl, List.forall₂_same.2 fun v hv => ih v hv (h v hv)⟩
  | map fields ih =>
      rw [hasDistinctKeys_map_iff] at h
      refine alike_map_iff.2 ⟨fields, rfl, fun _ hkey => hkey, fun field hfield => ?_⟩
      exact ⟨field.2, (PropertyMap.get?_eq_some_iff h.1).2 hfield, ih field hfield (h.2 field hfield)⟩

/-- Put every key on a path behind the other keys of its map. -/
def moveLast : List String → Value → Value
  | key :: path, .map fields =>
      match PropertyMap.get? fields key with
      | some v => .map (PropertyMap.without key fields ++ [(key, moveLast path v)])
      | none => .map fields
  | _, v => v

theorem moveLast_map (h : PropertyMap.get? fields key = some v) :
    moveLast (key :: path) (.map fields) =
      .map (PropertyMap.without key fields ++ [(key, moveLast path v)]) := by
  rw [moveLast, h]

theorem hasDistinctKeys_moveLast (h : v.hasDistinctKeys = true) (path : List String) :
    (moveLast path v).hasDistinctKeys = true := by
  fun_induction moveLast path v with
  | case1 key path fields v hget ih =>
      rw [hasDistinctKeys_map_iff] at h ⊢
      refine ⟨?_, fun field hfield => ?_⟩
      · rw [PropertyMap.keys_append, List.nodup_append]
        refine ⟨PropertyMap.nodup_keys_without h.1, List.nodup_singleton _, ?_⟩
        rintro other hother _ hkey rfl
        rw [List.mem_singleton.1 hkey] at hother
        exact PropertyMap.not_mem_keys_without hother
      · rcases List.mem_append.1 hfield with hold | hlast
        · exact h.2 field (PropertyMap.mem_without_iff.1 hold).1
        · rw [List.mem_singleton.1 hlast]
          exact ih (h.2 _ (PropertyMap.mem_of_get?_eq_some hget))
  | case2 | case3 =>
      exact h

/-- Nothing but the order of keys is changed. -/
theorem alike_moveLast (h : v.hasDistinctKeys = true) (path : List String) :
    v.alike (moveLast path v) = true := by
  fun_induction moveLast path v with
  | case1 key path fields v hget ih =>
      rw [hasDistinctKeys_map_iff] at h
      refine alike_map_iff.2 ⟨_, rfl, fun other hother => ?_, ?_⟩
      · rw [PropertyMap.keys_append, List.mem_append] at hother
        rcases hother with hother | hother
        · obtain ⟨field, hfield, rfl⟩ := List.mem_map.1 hother
          exact PropertyMap.mem_keys_of_mem (PropertyMap.mem_without_iff.1 hfield).1
        · rw [List.mem_singleton.1 hother]
          exact PropertyMap.mem_keys_of_mem (PropertyMap.mem_of_get?_eq_some hget)
      · rintro ⟨other, w⟩ hfield
        have hw := (PropertyMap.get?_eq_some_iff h.1).2 hfield
        by_cases hother : other = key
        · subst hother
          obtain rfl : v = w := Option.some.inj (hget.symm.trans hw)
          refine ⟨moveLast path v, ?_, ih (h.2 _ hfield)⟩
          rw [PropertyMap.get?_append,
            PropertyMap.get?_eq_none_iff.2 PropertyMap.not_mem_keys_without]
          simp [PropertyMap.get?]
        · refine ⟨w, ?_, alike_refl (h.2 _ hfield)⟩
          rw [PropertyMap.get?_append, PropertyMap.get?_without, if_pos hother, hw, Option.some_or]
  | case2 | case3 =>
      exact alike_refl h

theorem leavesIn_append (m rest : PropertyMap) :
    leavesIn (m ++ rest) = leavesIn m ++ leavesIn rest := by
  induction m with
  | nil =>
      rfl
  | cons field m ih =>
      rw [List.cons_append, leavesIn, leavesIn, ih, List.append_assoc]

/-- A leaf whose path is put last is the last leaf. -/
theorem exists_leaves_moveLast_eq_append (hv : Distinct v) (h : (path, x) ∈ leaves v) :
    ∃ before, leaves (moveLast path v) = before ++ [(path, x)] := by
  induction path generalizing v with
  | nil =>
      cases hmap : v.isMap with
      | true =>
          exact absurd rfl (ne_nil_of_mem_leaves hmap h)
      | false =>
          rw [leaves_of_not_map hmap, List.mem_singleton] at h
          refine ⟨[], ?_⟩
          cases h
          exact leaves_of_not_map hmap
  | cons key path ih =>
      cases v with
      | map fields =>
          rw [distinct_map_iff] at hv
          obtain ⟨_, w, hmem, inner, hinner, heq⟩ := mem_leavesIn_iff.1 h
          cases heq
          obtain ⟨before, hbefore⟩ := ih (hv.2 _ hmem) hinner
          refine ⟨leavesIn (PropertyMap.without key fields) ++ before.map (underKey key), ?_⟩
          rw [moveLast_map ((PropertyMap.get?_eq_some_iff hv.1).2 hmem), leaves, leavesIn_append,
            leavesIn, hbefore, leavesIn]
          simp [underKey]
      | null | bool | int | float | str | list =>
          rw [leaves_of_not_map rfl, List.mem_singleton] at h
          cases h

end Moving

end Value
end CypherBatch
