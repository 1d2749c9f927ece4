import CypherBatch.Property.Flatten
import CypherBatch.Proofs.Insertion
import CypherBatch.Proofs.Splitting

/-!
# Leaves and paths

A nested map is seen through its leaves: the values in it that are no maps, each at
the path of keys that leads to it.  Paths to the leaves of distinct keys do not begin
one another.

Rebuilding stores one value after another at the split keys.  A value that is stored
at a path is found there until one is stored at a path that it begins, or that begins
it; and whatever is found at a path and is no map was stored at exactly that path.
-/

namespace CypherBatch

/-- Does neither of two paths begin the other? -/
def Apart (p q : List String) : Prop :=
  ¬ p <+: q ∧ ¬ q <+: p

theorem Apart.symm {p q : List String} (h : Apart p q) : Apart q p :=
  ⟨h.2, h.1⟩

theorem apart_cons_iff {key other : String} {p q : List String} :
    Apart (key :: p) (other :: q) ↔ (key = other → Apart p q) := by
  unfold Apart
  rw [List.cons_prefix_cons, List.cons_prefix_cons]
  by_cases h : key = other
  · simp [h]
  · simp [h, Ne.symm h]

namespace Value

/-- A leaf of the map under a key. -/
def underKey (key : String) (leaf : List String × Value) : List String × Value :=
  (key :: leaf.1, leaf.2)

mutual

/-- The values in a value that are no maps, each with the keys on its path. -/
def leaves : Value → List (List String × Value)
  | .map fields => leavesIn fields
  | v => [([], v)]

def leavesIn : List (String × Value) → List (List String × Value)
  | [] => []
  | (key, v) :: rest => (leaves v).map (underKey key) ++ leavesIn rest

end

mutual

/-- The maps that a value is made of: itself, if it is one, and those nested under its keys. -/
def maps : Value → List PropertyMap
  | .map fields => fields :: mapsIn fields
  | _ => []

def mapsIn : List (String × Value) → List PropertyMap
  | [] => []
  | (_, v) :: rest => maps v ++ mapsIn rest

end

/-- The value at the end of a path through nested maps. -/
def at? : List String → Value → Option Value
  | [], v => some v
  | key :: path, .map fields => (PropertyMap.get? fields key).bind (at? path)
  | _ :: _, _ => none

theorem leaves_of_not_map {v : Value} (h : v.isMap = false) : leaves v = [([], v)] := by
  cases v <;> first | rfl | cases h

theorem maps_of_not_map {v : Value} (h : v.isMap = false) : maps v = [] := by
  cases v <;> first | rfl | cases h

theorem mem_leavesIn_iff {m : PropertyMap} {leaf : List String × Value} :
    leaf ∈ leavesIn m ↔
      ∃ key v, (key, v) ∈ m ∧ ∃ inner ∈ leaves v, leaf = underKey key inner := by
  induction m with
  | nil =>
      simp [leavesIn]
  | cons field m ih =>
      obtain ⟨k, v⟩ := field
      rw [leavesIn, List.mem_append, List.mem_map, ih]
      constructor
      · rintro (⟨inner, hinner, rfl⟩ | ⟨key, w, hmem, hrest⟩)
        · exact ⟨k, v, by simp, inner, hinner, rfl⟩
        · exact ⟨key, w, by simp [hmem], hrest⟩
      · rintro ⟨key, w, hmem, inner, hinner, rfl⟩
        rcases List.mem_cons.1 hmem with heq | hmem
        · cases heq
          exact Or.inl ⟨inner, hinner, rfl⟩
        · exact Or.inr ⟨key, w, hmem, inner, hinner, rfl⟩

theorem underKey_mem_leavesIn
    {m : PropertyMap} {key : String} {v : Value} {leaf : List String × Value}
    (hmem : (key, v) ∈ m) (hleaf : leaf ∈ leaves v) :
    underKey key leaf ∈ leavesIn m :=
  mem_leavesIn_iff.2 ⟨key, v, hmem, leaf, hleaf, rfl⟩

theorem ne_nil_of_mem_leavesIn
    {m : PropertyMap} {leaf : List String × Value} (h : leaf ∈ leavesIn m) : leaf.1 ≠ [] := by
  obtain ⟨key, v, -, inner, -, rfl⟩ := mem_leavesIn_iff.1 h
  exact List.cons_ne_nil _ _

/-- The leaves of a map are inside it. -/
theorem ne_nil_of_mem_leaves
    {v : Value} {leaf : List String × Value} (hv : v.isMap = true) (h : leaf ∈ leaves v) :
    leaf.1 ≠ [] := by
  cases v with
  | map fields =>
      exact ne_nil_of_mem_leavesIn h
  | null | bool | int | float | str | list =>
      cases hv

theorem mem_mapsIn_iff {m level : PropertyMap} :
    level ∈ mapsIn m ↔ ∃ field ∈ m, level ∈ maps field.2 := by
  induction m with
  | nil =>
      simp [mapsIn]
  | cons field m ih =>
      simp [mapsIn, ih]

theorem self_mem_maps (m : PropertyMap) : m ∈ maps (.map m) :=
  List.mem_cons_self

theorem mem_maps_of_field
    {m level : PropertyMap} {field : String × Value} (hfield : field ∈ m)
    (hlevel : level ∈ maps field.2) :
    level ∈ maps (.map m) :=
  List.mem_cons_of_mem _ (mem_mapsIn_iff.2 ⟨field, hfield, hlevel⟩)

/-- What holds of values that are no maps, and of maps of which it holds field by field. -/
@[elab_as_elim] theorem mapInduction
    {motive : Value → Prop}
    (other : ∀ v, v.isMap = false → motive v)
    (map : ∀ fields : PropertyMap, (∀ field ∈ fields, motive field.2) → motive (.map fields)) :
    ∀ v, motive v
  | .map fields => map fields fun field _ => mapInduction other map field.2
  | .null | .bool _ | .int _ | .float _ | .str _ | .list _ => other _ rfl
termination_by v => sizeOf v
decreasing_by
  rename_i hfield
  obtain ⟨key, v⟩ := field
  have hlt := List.sizeOf_lt_of_mem hfield
  simp only [Prod.mk.sizeOf_spec] at hlt
  simp only [Value.map.sizeOf_spec]
  omega

/-- Paths to the leaves of distinct keys do not begin one another. -/
theorem pairwise_leavesIn
    {m : PropertyMap} (hkeys : (PropertyMap.keys m).Nodup)
    (hfields : ∀ field ∈ m, (leaves field.2).Pairwise fun leaf other => Apart leaf.1 other.1) :
    (leavesIn m).Pairwise fun leaf other => Apart leaf.1 other.1 := by
  induction m with
  | nil =>
      exact List.Pairwise.nil
  | cons field m ih =>
      obtain ⟨key, v⟩ := field
      rw [PropertyMap.keys_cons, List.nodup_cons] at hkeys
      rw [leavesIn, List.pairwise_append]
      refine ⟨?_, ih hkeys.2 fun other hother => hfields other (by simp [hother]), ?_⟩
      · rw [List.pairwise_map]
        refine (hfields (key, v) (by simp)).imp fun hleaf => ?_
        exact apart_cons_iff.2 fun _ => hleaf
      · intro leaf hleaf other hother
        obtain ⟨inner, -, rfl⟩ := List.mem_map.1 hleaf
        obtain ⟨key', w, hmem, inner', -, rfl⟩ := mem_leavesIn_iff.1 hother
        refine apart_cons_iff.2 fun heq => ?_
        exact absurd (heq ▸ PropertyMap.mem_keys_of_mem hmem) hkeys.1

theorem pairwise_leaves
    {v : Value} (h : ∀ level ∈ maps v, (PropertyMap.keys level).Nodup) :
    (leaves v).Pairwise fun leaf other => Apart leaf.1 other.1 := by
  induction v using mapInduction with
  | other v hv =>
      rw [leaves_of_not_map hv]
      exact List.pairwise_singleton _ _
  | map fields ih =>
      refine pairwise_leavesIn (h fields (self_mem_maps fields)) fun field hfield => ?_
      exact ih field hfield fun level hlevel => h level (mem_maps_of_field hfield hlevel)

/-- Where no map is empty there is a leaf. -/
theorem exists_mem_leaves
    {v : Value} (hv : v ≠ .map [])
    (h : ∀ level ∈ maps v, ∀ field ∈ level, field.2 ≠ .map []) :
    ∃ leaf, leaf ∈ leaves v := by
  induction v using mapInduction with
  | other v hother =>
      exact ⟨([], v), by simp [leaves_of_not_map hother]⟩
  | map fields ih =>
      obtain ⟨⟨key, w⟩, rest, rfl⟩ :=
        List.exists_cons_of_ne_nil fun hnil => hv (congrArg Value.map hnil)
      have hmem : (key, w) ∈ (key, w) :: rest := List.mem_cons_self
      obtain ⟨leaf, hleaf⟩ := ih (key, w) hmem (h _ (self_mem_maps _) (key, w) hmem)
        fun level hlevel => h level (mem_maps_of_field hmem hlevel)
      exact ⟨underKey key leaf, underKey_mem_leavesIn hmem hleaf⟩

/-- Where no map is empty there is a leaf under every key. -/
theorem exists_mem_leaves_of_field
    {m : PropertyMap} {key : String} {v : Value}
    (h : ∀ level ∈ maps (.map m), ∀ field ∈ level, field.2 ≠ .map []) (hmem : (key, v) ∈ m) :
    ∃ leaf ∈ leaves v, underKey key leaf ∈ leavesIn m := by
  obtain ⟨leaf, hleaf⟩ := exists_mem_leaves (h m (self_mem_maps m) (key, v) hmem)
    fun level hlevel => h level (mem_maps_of_field hmem hlevel)
  exact ⟨leaf, hleaf, underKey_mem_leavesIn hmem hleaf⟩

/-- Leaves are no maps. -/
theorem isMap_of_mem_leaves
    {v : Value} {leaf : List String × Value} (h : leaf ∈ leaves v) : leaf.2.isMap = false := by
  induction v using mapInduction generalizing leaf with
  | other v hv =>
      rw [leaves_of_not_map hv, List.mem_singleton] at h
      rw [h, hv]
  | map fields ih =>
      obtain ⟨key, w, hmem, inner, hinner, rfl⟩ := mem_leavesIn_iff.1 h
      have hleaf : inner.2.isMap = false := ih (key, w) hmem hinner
      exact hleaf

end Value

namespace PropertyMap

section Storing

variable {value : Value} {p q : List String} {m : PropertyMap}

@[simp] theorem at?_cons (key : String) (path : List String) (m : PropertyMap) :
    Value.at? (key :: path) (.map m) = (get? m key).bind (Value.at? path) := by
  rfl

theorem at?_cons_of_not_map
    {v : Value} (h : v.isMap = false) (key : String) (path : List String) :
    Value.at? (key :: path) v = none := by
  cases v <;> first | rfl | cases h

/-- The branch under a key has what is at the paths through it. -/
theorem at?_branch (key next : String) (path : List String) (m : PropertyMap) :
    Value.at? (next :: path) (.map (branch m key)) =
      Value.at? (key :: next :: path) (.map m) := by
  rw [at?_cons key, branch]
  cases get? m key with
  | none =>
      rfl
  | some v =>
      cases v <;> rfl

/-- A stored value is found at its path. -/
theorem at?_insertPath_self (h : p ≠ []) :
    Value.at? p (.map (insertPath value p m)) = some value := by
  fun_induction insertPath value p m with
  | case1 =>
      exact absurd rfl h
  | case2 key m =>
      simp [Value.at?]
  | case3 key next path m ih =>
      rw [at?_cons, get?_insert_self]
      exact ih (by simp)

/-- A value stored apart from a path changes nothing at it. -/
theorem at?_insertPath_of_apart (h : Apart p q) :
    Value.at? p (.map (insertPath value q m)) = Value.at? p (.map m) := by
  fun_induction insertPath value q m generalizing p with
  | case1 =>
      rfl
  | case2 key m =>
      cases p with
      | nil =>
          exact absurd List.nil_prefix h.1
      | cons first p =>
          have hne : first ≠ key := by
            rintro rfl
            exact h.2 (by simp)
          rw [at?_cons, get?_insert_of_ne hne, at?_cons]
  | case3 key next path m ih =>
      cases p with
      | nil =>
          exact absurd List.nil_prefix h.1
      | cons first p =>
          rw [apart_cons_iff] at h
          by_cases hfirst : first = key
          · subst hfirst
            have hp := h rfl
            rw [at?_cons, get?_insert_self, Option.bind_some, ih hp]
            cases p with
            | nil =>
                exact absurd List.nil_prefix hp.1
            | cons second p =>
                exact at?_branch first second p m
          · rw [at?_cons, get?_insert_of_ne hfirst, at?_cons]

/-- What is found and is no map was stored there, now or before. -/
theorem at?_of_at?_insertPath
    {v : Value} (hvalue : value.isMap = false) (hv : v.isMap = false)
    (h : Value.at? p (.map (insertPath value q m)) = some v) :
    (p = q ∧ v = value) ∨ Value.at? p (.map m) = some v := by
  fun_induction insertPath value q m generalizing p with
  | case1 =>
      exact Or.inr h
  | case2 key m =>
      cases p with
      | nil =>
          cases h
          cases hv
      | cons first p =>
          by_cases hfirst : first = key
          · subst hfirst
            rw [at?_cons, get?_insert_self, Option.bind_some] at h
            cases p with
            | nil =>
                exact Or.inl ⟨rfl, (Option.some.inj h).symm⟩
            | cons second p =>
                rw [at?_cons_of_not_map hvalue] at h
                cases h
          · rw [at?_cons, get?_insert_of_ne hfirst] at h
            exact Or.inr h
  | case3 key next path m ih =>
      cases p with
      | nil =>
          cases h
          cases hv
      | cons first p =>
          by_cases hfirst : first = key
          · subst hfirst
            rw [at?_cons, get?_insert_self, Option.bind_some] at h
            -- It is in the new branch, so it was stored there or in the branch before.
            rcases ih h with ⟨rfl, rfl⟩ | hold
            · exact Or.inl ⟨rfl, rfl⟩
            · cases p with
              | nil =>
                  cases hold
                  cases hv
              | cons second p =>
                  rw [at?_branch] at hold
                  exact Or.inr hold
          · rw [at?_cons, get?_insert_of_ne hfirst] at h
            exact Or.inr h

end Storing

section Rebuilding

variable {sep : String} {key : String} {value : Value} {m rest : PropertyMap}

theorem unflatten_append (sep : String) (m rest : PropertyMap) :
    unflatten sep (m ++ rest) =
      rest.foldl (fun acc field => insertPath field.2 (Text.parts sep field.1) acc)
        (unflatten sep m) := by
  rw [unflatten, List.foldl_append]
  rfl

theorem unflatten_concat (sep key : String) (value : Value) (m : PropertyMap) :
    unflatten sep (m ++ [(key, value)]) =
      insertPath value (Text.parts sep key) (unflatten sep m) := by
  rw [unflatten_append]
  rfl

/-- A value is found at its split key if all values after it are stored apart from it. -/
theorem at?_unflatten_append
    (h : ∀ field ∈ rest, Apart (Text.parts sep key) (Text.parts sep field.1)) :
    Value.at? (Text.parts sep key) (.map (unflatten sep (m ++ (key, value) :: rest))) =
      some value := by
  -- From the back: the last field is stored last, and apart from the key.
  induction rest using List.reverseRecOn with
  | nil =>
      rw [unflatten_concat]
      exact at?_insertPath_self (Text.parts_ne_nil sep key)
  | append_singleton rest field ih =>
      rw [← List.cons_append, ← List.append_assoc, unflatten_concat,
        at?_insertPath_of_apart (h field (by simp))]
      exact ih fun other hother => h other (by simp [hother])

/-- Are the keys of a map split into paths of which none begins another? -/
def PrefixFree (sep : String) (m : PropertyMap) : Prop :=
  (keys m).Pairwise fun key other => Apart (Text.parts sep key) (Text.parts sep other)

theorem PrefixFree.apart
    {other : String} (h : PrefixFree sep m) (hkey : key ∈ keys m) (hother : other ∈ keys m)
    (hne : key ≠ other) :
    Apart (Text.parts sep key) (Text.parts sep other) := by
  have : Std.Symm fun key other => Apart (Text.parts sep key) (Text.parts sep other) :=
    ⟨fun _ _ h => h.symm⟩
  exact List.Pairwise.forall h hkey hother hne

/-- If no key begins another, each value is found at its split key. -/
theorem PrefixFree.at?_unflatten
    (h : PrefixFree sep m) (hmem : (key, value) ∈ m) :
    Value.at? (Text.parts sep key) (.map (unflatten sep m)) = some value := by
  obtain ⟨before, after, rfl⟩ := List.append_of_mem hmem
  rw [PrefixFree, keys_append, keys_cons, List.pairwise_append, List.pairwise_cons] at h
  exact at?_unflatten_append fun field hfield => h.2.1.1 field.1 (mem_keys_of_mem hfield)

/-- What is found in a rebuilt map and is no map has a key that is split into its path. -/
theorem mem_of_at?_unflatten
    {path : List String} (hm : ∀ field ∈ m, field.2.isMap = false) (hvalue : value.isMap = false)
    (h : Value.at? path (.map (unflatten sep m)) = some value) :
    ∃ key, (key, value) ∈ m ∧ Text.parts sep key = path := by
  induction m using List.reverseRecOn with
  | nil =>
      cases path with
      | nil =>
          cases h
          cases hvalue
      | cons first path =>
          cases h
  | append_singleton m field ih =>
      rw [unflatten_concat] at h
      rcases at?_of_at?_insertPath (hm field (by simp)) hvalue h with ⟨rfl, rfl⟩ | hold
      · exact ⟨field.1, by simp, rfl⟩
      · obtain ⟨key, hmem, hkey⟩ := ih (fun other hother => hm other (by simp [hother])) hold
        exact ⟨key, by simp [hmem], hkey⟩

/-- Only at a path that can be joined and split again is a value found that is no map. -/
theorem splits_of_at?_unflatten
    {path : List String} (hsep : sep ≠ "") (hm : ∀ field ∈ m, field.2.isMap = false)
    (hvalue : value.isMap = false)
    (h : Value.at? path (.map (unflatten sep m)) = some value) :
    Text.Splits sep path := by
  obtain ⟨key, -, hparts⟩ := mem_of_at?_unflatten hm hvalue h
  rw [← Text.parts_intercalate_iff hsep, ← hparts, Text.intercalate_parts hsep]

end Rebuilding

end PropertyMap
end CypherBatch
