import CypherBatch.Proofs.Flattening

/-!
# Maps that survive flattening

A map that is flattened and rebuilt is the same map, with its nesting, its values and
the order of its keys, exactly when three things hold at every level of it: no key holds
an empty map, a key that holds anything but a map has no separator in it, and a key that
holds a map ends clear of the separator.

Rebuilding stores leaves one behind another.  The leaves under a new key fill the branch
under it and leave all else as it is, so that the leaves of a level put its fields one
behind another, in their order.  The other way round, a rebuilt map holds no empty maps,
and a leaf is found at its path only if the path can be joined and split again.
-/

namespace CypherBatch

namespace Value

/-- Does no key of the maps in a value hold an empty map? -/
def Filled (v : Value) : Prop :=
  ∀ level ∈ maps v, ∀ field ∈ level, field.2 ≠ .map []

theorem filled_of_not_map {v : Value} (h : v.isMap = false) : Filled v := by
  rw [Filled, maps_of_not_map h]
  simp

theorem filled_map_iff {m : PropertyMap} :
    Filled (.map m) ↔ ∀ field ∈ m, field.2 ≠ .map [] ∧ Filled field.2 := by
  constructor
  · intro h field hfield
    exact ⟨h m (self_mem_maps m) field hfield,
      fun level hlevel => h level (mem_maps_of_field hfield hlevel)⟩
  · intro h level hlevel
    rcases List.mem_cons.1 hlevel with rfl | hlevel
    · exact fun field hfield => (h field hfield).1
    · obtain ⟨field, hfield, hlevel⟩ := mem_mapsIn_iff.1 hlevel
      exact (h field hfield).2 level hlevel

/-- A leaf is what is found at its path. -/
theorem at?_of_mem_leaves
    {v : Value} {leaf : List String × Value}
    (hdistinct : ∀ level ∈ maps v, (PropertyMap.keys level).Nodup) (hleaf : leaf ∈ leaves v) :
    at? leaf.1 v = some leaf.2 := by
  induction v using mapInduction generalizing leaf with
  | other v hv =>
      rw [leaves_of_not_map hv, List.mem_singleton] at hleaf
      rw [hleaf, at?]
  | map fields ih =>
      obtain ⟨key, w, hmem, inner, hinner, rfl⟩ := mem_leavesIn_iff.1 hleaf
      have hget : PropertyMap.get? fields key = some w :=
        (PropertyMap.get?_eq_some_iff (hdistinct fields (self_mem_maps fields))).2 hmem
      have hinside : at? inner.1 w = some inner.2 :=
        ih (key, w) hmem (fun level hlevel => hdistinct level (mem_maps_of_field hmem hlevel))
          hinner
      rw [underKey, PropertyMap.at?_cons, hget, Option.bind_some, hinside]

end Value

namespace PropertyMap

variable {sep key : String} {value : Value} {m acc : PropertyMap}
  {found : List (List String × Value)}

section Filling

theorem filled_insert
    (hvalue : value ≠ .map []) (hinside : value.Filled) (hm : Value.Filled (.map m)) :
    Value.Filled (.map (insert key value m)) := by
  rw [Value.filled_map_iff] at hm ⊢
  intro field hfield
  rcases mem_of_mem_insert hfield with rfl | hold
  · exact ⟨hvalue, hinside⟩
  · exact hm field hold

theorem filled_branch (hm : Value.Filled (.map m)) (key : String) :
    Value.Filled (.map (branch m key)) := by
  unfold branch
  split
  · rename_i fields hget
    exact (Value.filled_map_iff.1 hm (key, .map fields) (mem_of_get?_eq_some hget)).2
  · exact Value.filled_map_iff.2 (by simp)

theorem insertPath_ne_nil
    {path : List String} (hpath : path ≠ []) (value : Value) (m : PropertyMap) :
    insertPath value path m ≠ [] := by
  match path, hpath with
  | [_], _ | _ :: _ :: _, _ =>
      exact insert_ne_nil _ _ _

/-- No empty map is made on the way to a stored value. -/
theorem filled_insertPath
    {path : List String} (hvalue : value.isMap = false) (hm : Value.Filled (.map m)) :
    Value.Filled (.map (insertPath value path m)) := by
  fun_induction insertPath value path m with
  | case1 =>
      exact hm
  | case2 key m =>
      refine filled_insert ?_ (Value.filled_of_not_map hvalue) hm
      rintro rfl
      cases hvalue
  | case3 key next path m ih =>
      refine filled_insert (fun hempty => ?_) (ih (filled_branch hm key)) hm
      exact insertPath_ne_nil (List.cons_ne_nil next path) value _ (Value.map.inj hempty)

/-- A rebuilt map holds no empty maps. -/
theorem filled_unflatten (hm : ∀ field ∈ m, field.2.isMap = false) :
    Value.Filled (.map (unflatten sep m)) := by
  induction m using List.reverseRecOn with
  | nil =>
      exact Value.filled_map_iff.2 (by simp [unflatten])
  | append_singleton m field ih =>
      rw [unflatten_concat]
      exact filled_insertPath (hm field (by simp)) (ih fun other hother => hm other (by simp [hother]))

end Filling

section Storing

/-- Store leaves at their paths, one behind another. -/
def storeLeaves (found : List (List String × Value)) (acc : PropertyMap) : PropertyMap :=
  found.foldl (fun acc leaf => insertPath leaf.2 leaf.1 acc) acc

@[simp] theorem storeLeaves_nil (acc : PropertyMap) : storeLeaves [] acc = acc := by
  rfl

@[simp] theorem storeLeaves_cons
    (leaf : List String × Value) (found : List (List String × Value)) (acc : PropertyMap) :
    storeLeaves (leaf :: found) acc = storeLeaves found (insertPath leaf.2 leaf.1 acc) := by
  rfl

theorem storeLeaves_append (found rest : List (List String × Value)) (acc : PropertyMap) :
    storeLeaves (found ++ rest) acc = storeLeaves rest (storeLeaves found acc) := by
  exact List.foldl_append

theorem branch_of_not_mem (h : key ∉ keys m) : branch m key = [] := by
  rw [branch, get?_eq_none_iff.2 h]

@[simp] theorem branch_insert_map (key : String) (fields m : PropertyMap) :
    branch (insert key (.map fields) m) key = fields := by
  rw [branch, get?_insert_self]

theorem insertPath_underKey
    {leaf : List String × Value} (hleaf : leaf.1 ≠ []) (key : String) (acc : PropertyMap) :
    insertPath (Value.underKey key leaf).2 (Value.underKey key leaf).1 acc =
      insert key (.map (insertPath leaf.2 leaf.1 (branch acc key))) acc := by
  obtain ⟨path, v⟩ := leaf
  obtain ⟨next, path, rfl⟩ := List.exists_cons_of_ne_nil hleaf
  rfl

/-- Leaves under one key are stored in the branch under it. -/
theorem storeLeaves_underKey
    (hfound : found ≠ []) (hinside : ∀ leaf ∈ found, leaf.1 ≠ []) (key : String)
    (acc : PropertyMap) :
    storeLeaves (found.map (Value.underKey key)) acc =
      insert key (.map (storeLeaves found (branch acc key))) acc := by
  induction found generalizing acc with
  | nil =>
      exact absurd rfl hfound
  | cons leaf rest ih =>
      rw [List.map_cons, storeLeaves_cons, storeLeaves_cons,
        insertPath_underKey (hinside leaf (by simp))]
      by_cases hrest : rest = []
      · rw [hrest]
        rfl
      · rw [ih hrest fun other hother => hinside other (by simp [hother]), branch_insert_map,
          insert_insert]

/-- The leaves of a level put its fields behind the map if those of each field do. -/
theorem storeLeaves_leavesIn
    (hfields : ∀ field ∈ m, ∀ acc, field.1 ∉ keys acc →
      storeLeaves ((Value.leaves field.2).map (Value.underKey field.1)) acc = acc ++ [field])
    (hkeys : (keys (acc ++ m)).Nodup) :
    storeLeaves (Value.leavesIn m) acc = acc ++ m := by
  induction m generalizing acc with
  | nil =>
      rw [Value.leavesIn, storeLeaves_nil, List.append_nil]
  | cons field m ih =>
      have hnew : field.1 ∉ keys acc := by
        rw [keys_append, List.nodup_append] at hkeys
        exact fun hold => hkeys.2.2 field.1 hold field.1 (by simp) rfl
      have hrest : (keys (acc ++ [field] ++ m)).Nodup := by
        rwa [List.append_assoc]
      rw [Value.leavesIn, storeLeaves_append, hfields field (by simp) acc hnew,
        ih (fun other hother => hfields other (by simp [hother])) hrest, List.append_assoc]
      rfl

/-- The leaves of a value under a new key put the value there, at the end. -/
theorem storeLeaves_leaves
    {v : Value} (hdistinct : ∀ level ∈ Value.maps v, (keys level).Nodup) (hfilled : v.Filled)
    (hv : v ≠ .map []) (hkey : key ∉ keys acc) :
    storeLeaves ((Value.leaves v).map (Value.underKey key)) acc = acc ++ [(key, v)] := by
  induction v using Value.mapInduction generalizing key acc with
  | other v hother =>
      rw [Value.leaves_of_not_map hother]
      exact insert_of_not_mem hkey
  | map fields ih =>
      obtain ⟨leaf, hleaf⟩ := Value.exists_mem_leaves hv hfilled
      have hfound : Value.leavesIn fields ≠ [] := List.ne_nil_of_mem hleaf
      have hinside := Value.filled_map_iff.1 hfilled
      have hlevel : storeLeaves (Value.leavesIn fields) [] = fields := by
        refine (storeLeaves_leavesIn (fun field hfield acc hnew => ?_) ?_).trans (List.nil_append _)
        · exact ih field hfield
            (fun level hlevel => hdistinct level (Value.mem_maps_of_field hfield hlevel))
            (hinside field hfield).2 (hinside field hfield).1 hnew
        · exact hdistinct fields (Value.self_mem_maps fields)
      rw [Value.leaves, storeLeaves_underKey hfound fun _ => Value.ne_nil_of_mem_leavesIn,
        branch_of_not_mem hkey, hlevel, insert_of_not_mem hkey]

/-- Rebuilding joined leaves stores them if their paths can be split again. -/
theorem unflatten_map_joined
    (hsep : sep ≠ "") (hsplits : ∀ leaf ∈ found, Text.Splits sep leaf.1) :
    unflatten sep (found.map (joined sep)) = storeLeaves found [] := by
  rw [unflatten, List.foldl_map]
  refine List.foldl_ext _ _ _ fun acc leaf hleaf => ?_
  rw [parts_joined hsep (hsplits leaf hleaf)]
  rfl

end Storing

/-- Can a map be rebuilt from its flat form?

At every level no key holds an empty map, a key that holds another value has no separator
in it, and of a key that holds a map, with a separator behind it, that is the first one.
-/
structure Recoverable (sep : String) (m : PropertyMap) : Prop where
  filled : ∀ level ∈ Value.maps (.map m), ∀ field ∈ level, field.2 ≠ .map []
  plain : ∀ level ∈ Value.maps (.map m), ∀ field ∈ level, field.2.isMap = false →
    ¬ sep.toList <:+: field.1.toList
  clear : ∀ level ∈ Value.maps (.map m), ∀ field ∈ level, field.2.isMap = true →
    Text.EndsClear sep.toList field.1.toList

theorem recoverable_iff :
    Recoverable sep m ↔
      Value.Filled (.map m) ∧ ∀ level ∈ Value.maps (.map m), Readable sep level := by
  constructor
  · rintro ⟨hfilled, hplain, hclear⟩
    refine ⟨hfilled, fun level hlevel field hfield => ?_⟩
    split
    · rename_i hmap
      exact hclear level hlevel field hfield hmap
    · rename_i hmap
      exact hplain level hlevel field hfield (by simpa using hmap)
  · rintro ⟨hfilled, hreadable⟩
    refine ⟨hfilled, fun level hlevel field hfield hmap => ?_,
      fun level hlevel field hfield hmap => ?_⟩
    · simpa [hmap] using hreadable level hlevel field hfield
    · simpa [hmap] using hreadable level hlevel field hfield

section Recovery

variable (hsep : sep ≠ "") (hdistinct : ∀ level ∈ Value.maps (.map m), (keys level).Nodup)
include hsep hdistinct

theorem unflatten_flatten_of_recoverable (h : Recoverable sep m) :
    unflatten sep (flatten sep m) = m := by
  obtain ⟨hfilled, hreadable⟩ := recoverable_iff.1 h
  have hsplits : ∀ leaf ∈ Value.leavesIn m, Text.Splits sep leaf.1 := fun leaf hleaf =>
    splits_of_readable (v := .map m) hreadable leaf hleaf (Value.ne_nil_of_mem_leavesIn hleaf)
  have hinside := Value.filled_map_iff.1 hfilled
  rw [flatten_eq_joined hsep hsplits hdistinct, unflatten_map_joined hsep hsplits]
  refine (storeLeaves_leavesIn (fun field hfield acc hnew => ?_) ?_).trans (List.nil_append _)
  · exact storeLeaves_leaves
      (fun level hlevel => hdistinct level (Value.mem_maps_of_field hfield hlevel))
      (hinside field hfield).2 (hinside field hfield).1 hnew
  · exact hdistinct m (Value.self_mem_maps m)

theorem recoverable_of_unflatten_flatten (h : unflatten sep (flatten sep m) = m) :
    Recoverable sep m := by
  have hflat (field : String × Value) (hfield : field ∈ flatten sep m) :
      field.2.isMap = false :=
    isMap_of_mem_flatten hfield
  have hfilled : Value.Filled (.map m) := h ▸ filled_unflatten hflat
  refine recoverable_iff.2 ⟨hfilled, readable_of_splits hfilled fun leaf hleaf _ => ?_⟩
  have hfound : Value.at? leaf.1 (.map (unflatten sep (flatten sep m))) = some leaf.2 := by
    rw [h]
    exact Value.at?_of_mem_leaves hdistinct hleaf
  exact splits_of_at?_unflatten hsep hflat (Value.isMap_of_mem_leaves hleaf) hfound

/-- A nested map is rebuilt from its flat form as it was, key by key in the same order,
exactly when it is recoverable. -/
theorem unflatten?_flatten_eq_some_iff :
    unflatten? sep (flatten sep m) = some m ↔ Recoverable sep m := by
  have hsome : unflatten? sep (flatten sep m) = some (unflatten sep (flatten sep m)) :=
    if_neg fun h => hsep h.1
  rw [hsome, Option.some.injEq]
  exact ⟨recoverable_of_unflatten_flatten hsep hdistinct,
    unflatten_flatten_of_recoverable hsep hdistinct⟩

end Recovery

/-- A map whose keys are pieces of the separator `->-`. -/
def arrowed : PropertyMap :=
  [("-", .map [("->", .int 1), (">-", .list [.map []])]), ("->", .null),
    (">", .map [("-", .map [("->", .bool true)])])]

/-- Pieces of a separator do no harm in keys where they begin none with the one behind them. -/
theorem arrowed_is_rebuilt :
    "->-" ≠ "" ∧ (∀ level ∈ Value.maps (.map arrowed), (keys level).Nodup) ∧
      unflatten? "->-" (flatten "->-" arrowed) = some arrowed := by
  have hsep : "->-" ≠ "" := by
    decide
  have hdistinct : ∀ level ∈ Value.maps (.map arrowed), (keys level).Nodup := by
    decide +kernel
  have hrecoverable : Recoverable "->-" arrowed := by
    refine ⟨by decide +kernel, by decide +kernel, ?_⟩
    unfold Text.EndsClear
    decide +kernel
  exact ⟨hsep, hdistinct, (unflatten?_flatten_eq_some_iff hsep hdistinct).2 hrecoverable⟩

/-- A key that holds a map and ends in the first piece of the separator is not found again. -/
example :
    unflatten? "->-" (flatten "->-" [("a->", .map [("b", .int 1)])]) =
      some [("a", .map [(">-b", .int 1)])] := by
  decide +kernel

end PropertyMap
end CypherBatch
