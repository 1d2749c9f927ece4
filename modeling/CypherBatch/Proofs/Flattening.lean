import CypherBatch.Proofs.Nesting

/-!
# Flat maps as leaves

Flattening stores the leaves of a map under their joined paths, one after another.  If no
two leaves are joined to one key, they stand one behind another in their order; of those
that are joined to one key, the last counts.

They can be told apart by their joined paths exactly when the keys of every level can:
a key that holds a map has to end clear of the separator, and one that holds anything
else must not hold the separator.
-/

namespace CypherBatch
namespace PropertyMap

variable {sep : String}

/-- A leaf under its joined path. -/
def joined (sep : String) (leaf : List String × Value) : String × Value :=
  (sep.intercalate leaf.1, leaf.2)

theorem parts_joined
    {leaf : List String × Value} (hsep : sep ≠ "") (h : Text.Splits sep leaf.1) :
    Text.parts sep (joined sep leaf).1 = leaf.1 :=
  (Text.parts_intercalate_iff hsep leaf.1).2 h

theorem joined_underKey {leaf : List String × Value} (h : leaf.1 ≠ []) (sep key : String) :
    joined sep (Value.underKey key leaf) =
      (key ++ sep ++ (joined sep leaf).1, (joined sep leaf).2) := by
  rw [joined, Value.underKey, String.intercalate_cons_of_ne_nil h]
  rfl

theorem map_joined_underKey (sep key : String) (fields : PropertyMap) :
    ((Value.leavesIn fields).map (Value.underKey key)).map (joined sep) =
      ((Value.leavesIn fields).map (joined sep)).map fun field =>
        (key ++ sep ++ field.1, field.2) := by
  rw [List.map_map, List.map_map]
  exact List.map_congr_left fun leaf hleaf =>
    joined_underKey (Value.ne_nil_of_mem_leavesIn hleaf) sep key

theorem injective_underSeparator (sep key : String) :
    Function.Injective fun inner : String => key ++ sep ++ inner := by
  intro inner other h
  rw [← String.toList_inj] at h ⊢
  simpa using h

mutual

/-- Flattening a map into another one stores its leaves there. -/
theorem flattenInto_eq_insertAll (sep : String) :
    ∀ acc m : PropertyMap,
      flattenInto sep acc m = insertAll acc ((Value.leavesIn m).map (joined sep))
  | acc, [] => by
      simp [flattenInto, Value.leavesIn]
  | acc, (key, v) :: rest => by
      rw [flattenInto, flattenField_eq_insertAll, flattenInto_eq_insertAll sep _ rest,
        Value.leavesIn, List.map_append, insertAll_append]

theorem flattenField_eq_insertAll (sep : String) :
    ∀ (acc : PropertyMap) (key : String) (v : Value),
      flattenField sep acc key v =
        insertAll acc (((Value.leaves v).map (Value.underKey key)).map (joined sep))
  | acc, key, .map fields => by
      rw [flattenField, flattenInto_eq_insertAll sep [] fields,
        map_insertAll (injective_underSeparator sep key), List.map_nil, ← ofPairs,
        insertAll_ofPairs, Value.leaves, map_joined_underKey]
  | acc, key, .null | acc, key, .bool _ | acc, key, .int _ | acc, key, .float _
  | acc, key, .str _ | acc, key, .list _ => by
      simp [flattenField, Value.leaves, Value.underKey, joined]

end

/-- A flat map has the leaves under their joined paths, stored one after another. -/
theorem flatten_eq_ofPairs (sep : String) (m : PropertyMap) :
    flatten sep m = ofPairs ((Value.leavesIn m).map (joined sep)) :=
  flattenInto_eq_insertAll sep [] m

/-- Under a key of a flat map there is the last leaf that is joined to it. -/
theorem get?_flatten (sep : String) (m : PropertyMap) (key : String) :
    get? (flatten sep m) key = get? ((Value.leavesIn m).map (joined sep)).reverse key := by
  rw [flatten_eq_ofPairs, get?_ofPairs]

theorem mem_of_mem_flatten
    {m : PropertyMap} {field : String × Value} (h : field ∈ flatten sep m) :
    field ∈ (Value.leavesIn m).map (joined sep) := by
  rw [flatten_eq_ofPairs] at h
  rcases mem_of_mem_insertAll h with h | hnone
  · exact h
  · cases hnone

/-- What is stored under a key of a flat map is a leaf that is joined to it. -/
theorem exists_leaf_of_get?_flatten
    {m : PropertyMap} {key : String} {v : Value} (h : get? (flatten sep m) key = some v) :
    ∃ path, (path, v) ∈ Value.leavesIn m ∧ sep.intercalate path = key := by
  obtain ⟨⟨path, x⟩, hleaf, heq⟩ := List.mem_map.1 (mem_of_mem_flatten (mem_of_get?_eq_some h))
  obtain ⟨hpath, rfl⟩ := Prod.mk.inj heq
  exact ⟨path, hleaf, hpath⟩

theorem exists_get?_flatten
    (sep : String) {m : PropertyMap} {leaf : List String × Value} (h : leaf ∈ Value.leavesIn m) :
    ∃ v, get? (flatten sep m) (sep.intercalate leaf.1) = some v := by
  refine Option.ne_none_iff_exists'.1 (mt get?_eq_none_iff.1 (not_not_intro ?_))
  rw [flatten_eq_ofPairs]
  exact mem_keys_insertAll_iff.2 (Or.inr (mem_keys_of_mem (List.mem_map_of_mem h)))

/-- A flat map holds no maps. -/
theorem isMap_of_mem_flatten
    {m : PropertyMap} {field : String × Value} (h : field ∈ flatten sep m) :
    field.2.isMap = false := by
  obtain ⟨leaf, hleaf, rfl⟩ := List.mem_map.1 (mem_of_mem_flatten h)
  exact Value.isMap_of_mem_leaves (v := .map m) hleaf

/-- The keys of a flat map are distinct. -/
theorem nodup_keys_flatten (sep : String) (m : PropertyMap) :
    (keys (flatten sep m)).Nodup := by
  rw [flatten_eq_ofPairs]
  exact nodup_keys_ofPairs _

/-- A map with distinct keys that holds no maps is flat already. -/
theorem flatten_eq_self
    {m : PropertyMap} (hkeys : (keys m).Nodup) (hm : ∀ field ∈ m, field.2.isMap = false) :
    flatten sep m = m := by
  have hleaves : (Value.leavesIn m).map (joined sep) = m := by
    clear hkeys
    induction m with
    | nil =>
        rfl
    | cons field m ih =>
        rw [Value.leavesIn, Value.leaves_of_not_map (hm field (by simp)), List.map_append,
          ih fun other hother => hm other (by simp [hother])]
        simp [joined, Value.underKey]
  rw [flatten_eq_ofPairs, hleaves, ofPairs, insertAll_of_not_mem hkeys (by simp [keys]),
    List.nil_append]

/-- Can the keys of one level of a nested map be told apart when paths are joined? -/
def Readable (sep : String) (level : PropertyMap) : Prop :=
  ∀ field ∈ level,
    if field.2.isMap then Text.EndsClear sep.toList field.1.toList
    else ¬ sep.toList <:+: field.1.toList

/-- The paths of a value can be joined and split again if its keys can be told apart. -/
theorem splits_of_readable
    {v : Value} (h : ∀ level ∈ Value.maps v, Readable sep level) :
    ∀ leaf ∈ Value.leaves v, leaf.1 ≠ [] → Text.Splits sep leaf.1 := by
  induction v using Value.mapInduction with
  | other v hv =>
      intro leaf hleaf hne
      rw [Value.leaves_of_not_map hv, List.mem_singleton] at hleaf
      exact absurd (by rw [hleaf]) hne
  | map fields ih =>
      intro leaf hleaf _
      obtain ⟨key, w, hmem, inner, hinner, rfl⟩ := Value.mem_leavesIn_iff.1 hleaf
      have hkey := h fields (Value.self_mem_maps fields) (key, w) hmem
      have hpath := ih (key, w) hmem
        (fun level hlevel => h level (Value.mem_maps_of_field hmem hlevel)) inner hinner
      obtain ⟨path, value⟩ := inner
      cases path with
      | nil =>
          have hw : w.isMap = false := by
            cases w with
            | map inside =>
                exact absurd rfl (Value.ne_nil_of_mem_leavesIn hinner)
            | null | bool | int | float | str | list =>
                rfl
          have hlast : ¬ sep.toList <:+: key.toList := by
            simpa [hw] using hkey
          exact hlast
      | cons next path =>
          have hw : w.isMap = true := by
            by_contra hnot
            rw [Value.leaves_of_not_map (by simpa using hnot)] at hinner
            simp at hinner
          exact ⟨by simpa [hw] using hkey, hpath (by simp)⟩

/-- Where no map is empty, paths can be joined and split again only if all keys can be told apart. -/
theorem readable_of_splits
    {v : Value} (hfilled : ∀ level ∈ Value.maps v, ∀ field ∈ level, field.2 ≠ .map [])
    (h : ∀ leaf ∈ Value.leaves v, leaf.1 ≠ [] → Text.Splits sep leaf.1) :
    ∀ level ∈ Value.maps v, Readable sep level := by
  induction v using Value.mapInduction with
  | other v hv =>
      intro level hlevel
      rw [Value.maps_of_not_map hv] at hlevel
      cases hlevel
  | map fields ih =>
      intro level hlevel
      rcases List.mem_cons.1 hlevel with rfl | hlevel
      · rintro ⟨key, w⟩ hmem
        obtain ⟨inner, hinner, hleaf⟩ := Value.exists_mem_leaves_of_field hfilled hmem
        have hpath := h _ hleaf (List.cons_ne_nil _ _)
        cases w with
        | map inside =>
            obtain ⟨next, path, hnext⟩ :=
              List.exists_cons_of_ne_nil (Value.ne_nil_of_mem_leavesIn hinner)
            rw [Value.underKey, hnext] at hpath
            exact hpath.1
        | null | bool | int | float | str | list =>
            obtain rfl := List.mem_singleton.1 hinner
            exact hpath
      · obtain ⟨⟨key, w⟩, hmem, hlevel⟩ := Value.mem_mapsIn_iff.1 hlevel
        refine ih (key, w) hmem
          (fun inside hinside => hfilled inside (Value.mem_maps_of_field hmem hinside))
          (fun inner hinner hne => ?_) level hlevel
        have hpath := h _ (Value.underKey_mem_leavesIn hmem hinner) (List.cons_ne_nil _ _)
        obtain ⟨next, path, hnext⟩ := List.exists_cons_of_ne_nil hne
        rw [Value.underKey, hnext] at hpath
        exact hnext ▸ hpath.2

section Told

variable {m : PropertyMap} (hsep : sep ≠ "")
  (hsplits : ∀ leaf ∈ Value.leavesIn m, Text.Splits sep leaf.1)
include hsep hsplits

/-- Leaves that can be told apart are joined to keys of which none begins another. -/
theorem prefixFree_joined
    (hdistinct : ∀ level ∈ Value.maps (.map m), (keys level).Nodup) :
    PrefixFree sep ((Value.leavesIn m).map (joined sep)) := by
  have hapart := Value.pairwise_leaves hdistinct
  rw [PrefixFree, keys, List.pairwise_map, List.pairwise_map]
  refine List.Pairwise.imp_of_mem (fun hleaf hother h => ?_) hapart
  rwa [parts_joined hsep (hsplits _ hleaf), parts_joined hsep (hsplits _ hother)]

/-- A map whose leaves can be told apart is flattened to its leaves under their joined paths. -/
theorem flatten_eq_joined
    (hdistinct : ∀ level ∈ Value.maps (.map m), (keys level).Nodup) :
    flatten sep m = (Value.leavesIn m).map (joined sep) := by
  rw [flatten_eq_ofPairs, ofPairs, insertAll_of_not_mem ?_ (by simp [keys]), List.nil_append]
  refine (prefixFree_joined hsep hsplits hdistinct).imp fun hapart heq => ?_
  exact hapart.1 (heq ▸ List.prefix_rfl)

end Told

end PropertyMap
end CypherBatch
