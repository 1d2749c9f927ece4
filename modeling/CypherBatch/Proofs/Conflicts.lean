import CypherBatch.Proofs.Rebuilding

/-!
# Flat maps that survive rebuilding

A flat map whose nesting is rebuilt and that is flattened again has its fields back, in
whatever order, exactly when no key of it is split into a path that begins the path of
another key.

Nothing is made up on the way: each field that comes back was there.  Where no path begins
another, each value is found at its path, so that each field comes back.  Where one does,
both cannot come back, whichever was stored first: a nested map that has a value at a path,
and not a map, has nothing below it.
-/

namespace CypherBatch

namespace Value

/-- Are the keys distinct in each of the maps that a value is made of? -/
def Distinct (v : Value) : Prop :=
  ∀ level ∈ maps v, (PropertyMap.keys level).Nodup

theorem distinct_of_not_map {v : Value} (h : v.isMap = false) : Distinct v := by
  rw [Distinct, maps_of_not_map h]
  simp

theorem distinct_map_iff {m : PropertyMap} :
    Distinct (.map m) ↔ (PropertyMap.keys m).Nodup ∧ ∀ field ∈ m, Distinct field.2 := by
  constructor
  · intro h
    exact ⟨h m (self_mem_maps m),
      fun field hfield level hlevel => h level (mem_maps_of_field hfield hlevel)⟩
  · rintro ⟨hkeys, hfields⟩ level hlevel
    rcases List.mem_cons.1 hlevel with rfl | hlevel
    · exact hkeys
    · obtain ⟨field, hfield, hlevel⟩ := mem_mapsIn_iff.1 hlevel
      exact hfields field hfield level hlevel

/-- What is found at a path and is no map is a leaf. -/
theorem mem_leaves_of_at?
    {v x : Value} {path : List String} (hx : x.isMap = false) (h : at? path v = some x) :
    (path, x) ∈ leaves v := by
  induction path generalizing v with
  | nil =>
      obtain rfl : v = x := Option.some.inj h
      rw [leaves_of_not_map hx]
      exact List.mem_singleton_self _
  | cons key path ih =>
      cases hv : v.isMap with
      | false =>
          rw [PropertyMap.at?_cons_of_not_map hv] at h
          cases h
      | true =>
          obtain ⟨m, rfl⟩ : ∃ m, v = .map m := by
            cases v <;> first | exact ⟨_, rfl⟩ | cases hv
          obtain ⟨w, hget, hw⟩ := Option.bind_eq_some_iff.1 h
          exact underKey_mem_leavesIn (PropertyMap.mem_of_get?_eq_some hget) (ih hw)

theorem at?_append (p q : List String) (v : Value) :
    at? (p ++ q) v = (at? p v).bind (at? q) := by
  induction p generalizing v with
  | nil =>
      rfl
  | cons key p ih =>
      cases v with
      | map m =>
          rw [List.cons_append, PropertyMap.at?_cons, PropertyMap.at?_cons, Option.bind_assoc]
          exact congrArg _ (funext ih)
      | null | bool | int | float | str | list =>
          rfl

/-- A value that is no map has nothing below it. -/
theorem eq_of_prefix_of_at?
    {v x y : Value} {p q : List String} (hp : at? p v = some x) (hx : x.isMap = false)
    (hq : at? q v = some y) (hbegins : p <+: q) :
    p = q := by
  obtain ⟨below, rfl⟩ := hbegins
  cases below with
  | nil =>
      rw [List.append_nil]
  | cons key below =>
      rw [at?_append, hp, Option.bind_some, PropertyMap.at?_cons_of_not_map hx] at hq
      cases hq

end Value

namespace PropertyMap

variable {sep key : String} {value : Value} {m f : PropertyMap}

section Distinct

theorem distinct_insert
    (hvalue : value.Distinct) (hm : Value.Distinct (.map m)) :
    Value.Distinct (.map (insert key value m)) := by
  rw [Value.distinct_map_iff] at hm ⊢
  refine ⟨nodup_keys_insert hm.1 key value, fun field hfield => ?_⟩
  rcases mem_of_mem_insert hfield with rfl | hold
  · exact hvalue
  · exact hm.2 field hold

theorem distinct_branch (hm : Value.Distinct (.map m)) (key : String) :
    Value.Distinct (.map (branch m key)) := by
  unfold branch
  split
  · rename_i fields hget
    exact (Value.distinct_map_iff.1 hm).2 (key, .map fields) (mem_of_get?_eq_some hget)
  · exact Value.distinct_map_iff.2 ⟨List.nodup_nil, by simp⟩

theorem distinct_insertPath
    {path : List String} (hvalue : value.isMap = false) (hm : Value.Distinct (.map m)) :
    Value.Distinct (.map (insertPath value path m)) := by
  fun_induction insertPath value path m with
  | case1 =>
      exact hm
  | case2 key m =>
      exact distinct_insert (Value.distinct_of_not_map hvalue) hm
  | case3 key next path m ih =>
      exact distinct_insert (ih (distinct_branch hm key)) hm

/-- The keys of a rebuilt map are distinct at every level. -/
theorem distinct_unflatten (hf : ∀ field ∈ f, field.2.isMap = false) :
    Value.Distinct (.map (unflatten sep f)) := by
  induction f using List.reverseRecOn with
  | nil =>
      exact Value.distinct_map_iff.2 ⟨List.nodup_nil, by simp [unflatten]⟩
  | append_singleton f field ih =>
      rw [unflatten_concat]
      exact distinct_insertPath (hf field (by simp)) (ih fun other hother => hf other (by simp [hother]))

end Distinct

section Returning

variable (hsep : sep ≠ "") (hf : ∀ field ∈ f, field.2.isMap = false)
include hsep hf

/-- A field that comes back was there, and its value is at the path of its key. -/
theorem mem_of_mem_flatten_unflatten
    {field : String × Value} (h : field ∈ flatten sep (unflatten sep f)) :
    field ∈ f ∧ Value.at? (Text.parts sep field.1) (.map (unflatten sep f)) = some field.2 := by
  obtain ⟨leaf, hleaf, rfl⟩ := List.mem_map.1 (mem_of_mem_flatten h)
  have hfound : Value.at? leaf.1 (.map (unflatten sep f)) = some leaf.2 :=
    Value.at?_of_mem_leaves (v := .map _) (distinct_unflatten hf) hleaf
  obtain ⟨key, hmem, hparts⟩ :=
    mem_of_at?_unflatten hf (Value.isMap_of_mem_leaves (v := .map _) hleaf) hfound
  have hkey : sep.intercalate leaf.1 = key := by
    rw [← hparts, Text.intercalate_parts hsep]
  rw [joined, hkey, hparts]
  exact ⟨hmem, hfound⟩

/-- A field comes back if its value is at the path of its key. -/
theorem mem_flatten_unflatten_of_at?
    {field : String × Value} (hmem : field ∈ f)
    (h : Value.at? (Text.parts sep field.1) (.map (unflatten sep f)) = some field.2) :
    field ∈ flatten sep (unflatten sep f) := by
  have hsplits : ∀ leaf ∈ Value.leavesIn (unflatten sep f), Text.Splits sep leaf.1 :=
    fun leaf hleaf => splits_of_at?_unflatten hsep hf
      (Value.isMap_of_mem_leaves (v := .map _) hleaf)
      (Value.at?_of_mem_leaves (v := .map _) (distinct_unflatten hf) hleaf)
  have hleaf : (Text.parts sep field.1, field.2) ∈ Value.leavesIn (unflatten sep f) :=
    Value.mem_leaves_of_at? (hf field hmem) h
  rw [flatten_eq_joined hsep hsplits (distinct_unflatten hf), List.mem_map]
  exact ⟨_, hleaf, by rw [joined, Text.intercalate_parts hsep]⟩

/-- If no key begins another, the fields that come back are those that were there. -/
theorem PrefixFree.mem_flatten_unflatten_iff
    (h : PrefixFree sep f) (field : String × Value) :
    field ∈ flatten sep (unflatten sep f) ↔ field ∈ f := by
  constructor
  · exact fun hback => (mem_of_mem_flatten_unflatten hsep hf hback).1
  · exact fun hmem => mem_flatten_unflatten_of_at? hsep hf hmem (h.at?_unflatten hmem)

/-- Of two fields that come back, neither key begins the other. -/
theorem parts_eq_of_begins
    {field other : String × Value} (hfield : field ∈ flatten sep (unflatten sep f))
    (hother : other ∈ flatten sep (unflatten sep f))
    (hbegins : Text.parts sep field.1 <+: Text.parts sep other.1) :
    Text.parts sep field.1 = Text.parts sep other.1 := by
  obtain ⟨hmem, hfound⟩ := mem_of_mem_flatten_unflatten hsep hf hfield
  obtain ⟨-, hfound'⟩ := mem_of_mem_flatten_unflatten hsep hf hother
  exact Value.eq_of_prefix_of_at? hfound (hf field hmem) hfound' hbegins

end Returning

/-- Distinct keys are split into distinct paths. -/
theorem prefixFree_of_forall
    (hsep : sep ≠ "") (hkeys : (keys f).Nodup)
    (h : ∀ key ∈ keys f, ∀ other ∈ keys f, Text.parts sep key <+: Text.parts sep other →
      Text.parts sep key = Text.parts sep other) :
    PrefixFree sep f := by
  refine hkeys.pairwise_of_forall_ne fun key hkey other hother hne => ?_
  have hpaths : Text.parts sep key ≠ Text.parts sep other := by
    intro heq
    apply hne
    rw [← Text.intercalate_parts hsep key, heq, Text.intercalate_parts hsep]
  exact ⟨fun hbegins => hpaths (h key hkey other hother hbegins),
    fun hbegins => hpaths (h other hother key hkey hbegins).symm⟩

/-- A flat map is flattened back from its nested form, the order of its fields aside, exactly when
no key of it is split into a proper beginning of the parts of another key. -/
theorem flatten_unflatten_perm_iff
    (hsep : sep ≠ "") (hkeys : (keys f).Nodup) (hf : ∀ field ∈ f, field.2.isMap = false) :
    (∃ nested, unflatten? sep f = some nested ∧ (flatten sep nested).Perm f) ↔
      ¬ ∃ key ∈ keys f, ∃ other ∈ keys f, key ≠ other ∧
        Text.parts sep key <+: Text.parts sep other ∧
        Text.parts sep key ≠ Text.parts sep other := by
  have hsome : unflatten? sep f = some (unflatten sep f) :=
    if_neg fun h => hsep h.1
  constructor
  · rintro ⟨nested, hnested, hperm⟩ ⟨key, hkey, other, hother, -, hbegins, hne⟩
    obtain rfl : unflatten sep f = nested := Option.some.inj (hsome.symm.trans hnested)
    obtain ⟨field, hfield, rfl⟩ := List.mem_map.1 hkey
    obtain ⟨field', hfield', rfl⟩ := List.mem_map.1 hother
    exact hne (parts_eq_of_begins hsep hf (hperm.mem_iff.2 hfield) (hperm.mem_iff.2 hfield') hbegins)
  · intro h
    refine ⟨_, hsome, ?_⟩
    have hfree : PrefixFree sep f := by
      refine prefixFree_of_forall hsep hkeys fun key hkey other hother hbegins => ?_
      by_contra hne
      exact h ⟨key, hkey, other, hother, fun heq => hne (heq ▸ rfl), hbegins, hne⟩
    rw [List.perm_ext_iff_of_nodup (nodup_keys_flatten sep _).of_map hkeys.of_map]
    exact hfree.mem_flatten_unflatten_iff hsep hf

/-- A flat map whose branches are interleaved, with keys that nearly begin one another. -/
def interleaved : PropertyMap :=
  [("a__b", .int 1), ("", .null), ("a_", .bool true), ("a__c__d", .list [.map []]),
    ("a___b", .str "x"), ("a__c_", .int 2)]

/-- Keys that begin others as texts, but are not split into beginnings of them, do no harm. -/
theorem interleaved_comes_back :
    "__" ≠ "" ∧ (keys interleaved).Nodup ∧ (∀ field ∈ interleaved, field.2.isMap = false) ∧
      ∃ nested, unflatten? "__" interleaved = some nested ∧
        (flatten "__" nested).Perm interleaved := by
  have hsep : "__" ≠ "" := by
    decide
  have hkeys : (keys interleaved).Nodup := by
    decide +kernel
  have hf : ∀ field ∈ interleaved, field.2.isMap = false := by
    decide +kernel
  refine ⟨hsep, hkeys, hf, (flatten_unflatten_perm_iff hsep hkeys hf).2 ?_⟩
  decide +kernel

/-- A key that begins another loses its value if it comes first, and takes the other's if it comes last. -/
example :
    flatten "__" (unflatten "__" [("a", .int 1), ("a__b", .int 2)]) = [("a__b", .int 2)] ∧
    flatten "__" (unflatten "__" [("a__b", .int 2), ("a", .int 1)]) = [("a", .int 1)] := by
  decide +kernel

end PropertyMap
end CypherBatch
