import CypherBatch.Response
import CypherBatch.Proofs.Stamping

/-!
# What is saved nested is read back nested

A nested map is flattened and stamped when it is saved, and given its nested shape
again when it is read.  Each of its leaves is then found at its path, and the four
stamps are, if no key that holds a map ends in an underscore and no stamp is put where
a map was.  Otherwise some leaf is lost: the underscore is taken for a part of the
separator and the leaf comes back at another path, or the stamp takes its place.
-/

namespace CypherBatch

namespace Response

/-- The cell in a row and column. -/
def cellAt (rows : List (List Value)) (row column : Nat) : Option Value :=
  rows[row]?.bind fun cells => cells[column]?

theorem nestedCells_eq_map (cells : List Value) :
    nestedCells cells = cells.map nestedCell := by
  induction cells with
  | nil =>
      rfl
  | cons v rest ih =>
      rw [nestedCells, ih, List.map_cons]

/-- The cells of nested rows are the cells of the table given their nested shape. -/
theorem cellAt_nestedRows (t : Table) (row column : Nat) :
    cellAt t.nestedRows row column = (cellAt t.cells row column).map nestedCell := by
  rw [cellAt, cellAt, Table.nestedRows, List.getElem?_map]
  cases t.cells[row]? with
  | none =>
      rfl
  | some cells =>
      simp [nestedCells_eq_map]

end Response

namespace PropertyMap

/-- A nested map with distinct keys, none with a separator in it, and with no empty map inside. -/
structure WellNested (m : PropertyMap) : Prop where
  distinct : ∀ level ∈ Value.maps (.map m), (keys level).Nodup
  filled : ∀ level ∈ Value.maps (.map m), ∀ field ∈ level, field.2 ≠ .map []
  plain : ∀ level ∈ Value.maps (.map m), ∀ key ∈ keys level,
    ¬ separator.toList <:+: key.toList

/-- No key that holds a map ends in an underscore, or is one that is stamped. -/
structure Unambiguous (m : PropertyMap) : Prop where
  clear : ∀ level ∈ Value.maps (.map m), ∀ field ∈ level, field.2.isMap = true →
    ¬ ['_'] <:+ field.1.toList
  free : ∀ field ∈ m, field.1 ∈ requiredFields → field.2.isMap = false

/-- Is every leaf of a map found at its path, unless it stands directly at a stamped key? -/
def Restored (m : PropertyMap) (nested : Value) : Prop :=
  ∀ leaf ∈ Value.leavesIn m, (∀ key ∈ requiredFields, leaf.1 ≠ [key]) →
    Value.at? leaf.1 nested = some leaf.2

/-- Is every stamp of a stored map found at its key? -/
def Stamped (stored : PropertyMap) (nested : Value) : Prop :=
  ∀ key ∈ requiredFields, ∃ v, get? stored key = some v ∧ Value.at? [key] nested = some v

theorem separator_ne_empty : separator ≠ "" := by
  decide

/-- The keys of the stamps hold no separator. -/
theorem not_separator_of_mem_requiredFields
    {key : String} (h : key ∈ requiredFields) :
    ¬ separator.toList <:+: key.toList := by
  revert key
  decide

theorem parts_of_mem_requiredFields
    {key : String} (h : key ∈ requiredFields) :
    Text.parts separator key = [key] :=
  Text.parts_of_not_holds (not_separator_of_mem_requiredFields h)

section Reading

variable {m fields : PropertyMap} {key : String}

/-- A leaf that is joined to the key of a stamp stands at that key. -/
theorem eq_singleton_of_joined
    {leaf : List String × Value} (hleaf : leaf ∈ Value.leavesIn m)
    (hkey : (joined separator leaf).1 ∈ requiredFields) :
    leaf.1 = [(joined separator leaf).1] := by
  obtain ⟨path, value⟩ := leaf
  obtain ⟨first, path, rfl⟩ := List.exists_cons_of_ne_nil (Value.ne_nil_of_mem_leavesIn hleaf)
  cases path with
  | nil =>
      simp [joined]
  | cons next path =>
      refine absurd ?_ (not_separator_of_mem_requiredFields hkey)
      rw [joined, String.intercalate_cons_cons]
      exact ⟨first.toList, (separator.intercalate (next :: path)).toList, by simp⟩

/-- Under a key that holds no map there is but the leaf at that key. -/
theorem eq_nil_of_mem_leavesIn
    {path : List String} {v : Value} (hnot : ∀ field ∈ m, field.1 = key → field.2.isMap = false)
    (h : (key :: path, v) ∈ Value.leavesIn m) :
    path = [] := by
  obtain ⟨k, w, hmem, inner, hinner, heq⟩ := Value.mem_leavesIn_iff.1 h
  cases heq
  rw [Value.leaves_of_not_map (hnot (key, w) hmem rfl), List.mem_singleton] at hinner
  exact congrArg Prod.fst hinner

/-- A leaf directly under a key is a field that holds no map. -/
theorem singleton_mem_leavesIn_iff {v : Value} :
    ([key], v) ∈ Value.leavesIn m ↔ (key, v) ∈ m ∧ v.isMap = false := by
  constructor
  · intro h
    refine ⟨?_, Value.isMap_of_mem_leaves (v := .map m) h⟩
    obtain ⟨k, w, hmem, ⟨path, x⟩, hinner, heq⟩ := Value.mem_leavesIn_iff.1 h
    cases heq
    cases hw : w.isMap with
    | true =>
        exact absurd rfl (Value.ne_nil_of_mem_leaves hw hinner)
    | false =>
        rw [Value.leaves_of_not_map hw, List.mem_singleton] at hinner
        cases hinner
        exact hmem
  · rintro ⟨hmem, hv⟩
    have hleaf : ([], v) ∈ Value.leaves v := by
      rw [Value.leaves_of_not_map hv]
      exact List.mem_singleton_self _
    exact Value.underKey_mem_leavesIn hmem hleaf

/-- Under the key of a stamp a flat map has what the map has there, unless that is a map. -/
theorem get?_flatten_of_mem_requiredFields
    (hnodup : (keys m).Nodup) (hkey : key ∈ requiredFields) :
    get? (flatten separator m) key = (get? m key).filter fun v => !v.isMap := by
  have hfield {v : Value} (h : get? (flatten separator m) key = some v) :
      (key, v) ∈ m ∧ v.isMap = false := by
    obtain ⟨path, hleaf, hpath⟩ := exists_leaf_of_get?_flatten h
    have hdirect : path = [separator.intercalate path] :=
      eq_singleton_of_joined hleaf (by rwa [joined, hpath])
    rw [hpath] at hdirect
    exact singleton_mem_leavesIn_iff.1 (hdirect ▸ hleaf)
  refine Option.ext fun v => ?_
  rw [Option.filter_eq_some_iff, get?_eq_some_iff hnodup, Bool.not_eq_true']
  constructor
  · exact hfield
  · intro h
    -- Something is stored under the key, and it can be nothing else.
    obtain ⟨w, hget⟩ := exists_get?_flatten separator (singleton_mem_leavesIn_iff.2 h)
    rw [String.intercalate_singleton] at hget
    have hsame := (get?_eq_some_iff hnodup).2 (hfield hget).1
    rw [(get?_eq_some_iff hnodup).2 h.1] at hsame
    rw [hget, hsame]

/-- The key of a stamp under which there is a map is not that of a flat field. -/
theorem not_mem_keys_flatten
    {w : Value} (hnodup : (keys m).Nodup) (hmem : (key, w) ∈ m) (hmap : w.isMap = true)
    (hkey : key ∈ requiredFields) :
    key ∉ keys (flatten separator m) := by
  rw [← get?_eq_none_iff, get?_flatten_of_mem_requiredFields hnodup hkey,
    (get?_eq_some_iff hnodup).2 hmem, Option.filter_some, hmap]
  rfl

/-- A stamp that is new is put at the end, and nothing behind it takes its place. -/
theorem at?_of_new_stamp
    {flat : PropertyMap} {stamp : Value} (hkeys : keys fields = requiredFields)
    (hnew : key ∉ keys flat) (hmem : (key, stamp) ∈ fields) :
    Value.at? [key] (.map (unflatten separator (insertAll flat fields))) = some stamp := by
  have hparts (field : String × Value) (h : field ∈ fields) :
      Text.parts separator field.1 = [field.1] :=
    parts_of_mem_requiredFields (hkeys ▸ List.mem_map_of_mem h)
  obtain ⟨before, after, heq, hafter⟩ :=
    exists_insertAll_eq_append (hkeys ▸ nodup_requiredFields) hnew hmem
  have hfound : Value.at? (Text.parts separator key)
      (.map (unflatten separator (before ++ (key, stamp) :: after))) = some stamp := by
    refine at?_unflatten_append fun field hfield => ?_
    rw [hparts (key, stamp) hmem, hparts field (hafter field hfield).1]
    exact apart_cons_iff.2 fun hsame => absurd hsame (hafter field hfield).2
  rwa [← heq, hparts (key, stamp) hmem] at hfound

section Clear

variable (hm : WellNested m) (hu : Unambiguous m)
include hm hu

theorem splits_of_unambiguous :
    ∀ leaf ∈ Value.leavesIn m, Text.Splits separator leaf.1 := by
  intro leaf hleaf
  refine splits_of_readable (v := .map m) (fun level hlevel field hfield => ?_) leaf hleaf
    (Value.ne_nil_of_mem_leavesIn hleaf)
  have hplain := hm.plain level hlevel field.1 (mem_keys_of_mem hfield)
  split
  · rename_i hmap
    exact Text.endsClear_pair_iff.2 ⟨hplain, hu.clear level hlevel field hfield hmap⟩
  · exact hplain

theorem flatten_of_unambiguous :
    flatten separator m = (Value.leavesIn m).map (joined separator) :=
  flatten_eq_joined separator_ne_empty (splits_of_unambiguous hm hu) hm.distinct

/-- A stamp is stored apart from all leaves that stand at other keys. -/
theorem apart_of_stamp
    {leaf : List String × Value} (hleaf : leaf ∈ Value.leavesIn m) (hkey : key ∈ requiredFields)
    (hne : key ≠ (joined separator leaf).1) :
    Apart (Text.parts separator key) (Text.parts separator (joined separator leaf).1) := by
  have hparts := parts_joined separator_ne_empty (splits_of_unambiguous hm hu leaf hleaf)
  obtain ⟨path, value⟩ := leaf
  obtain ⟨first, path, rfl⟩ := List.exists_cons_of_ne_nil (Value.ne_nil_of_mem_leavesIn hleaf)
  rw [hparts, parts_of_mem_requiredFields hkey]
  refine apart_cons_iff.2 fun hfirst => ?_
  subst hfirst
  obtain rfl := eq_nil_of_mem_leavesIn
    (fun field hfield heq => hu.free field hfield (heq ▸ hkey)) hleaf
  exact absurd (by simp [joined]) hne

/-- None of the keys of the stored map begins another. -/
theorem prefixFree_stored (hkeys : keys fields = requiredFields) :
    PrefixFree separator (insertAll (flatten separator m) fields) := by
  have hleaves := prefixFree_joined separator_ne_empty (splits_of_unambiguous hm hu) hm.distinct
  have hflat (key : String) (h : key ∈ keys (flatten separator m)) :
      ∃ leaf ∈ Value.leavesIn m, (joined separator leaf).1 = key := by
    simpa [flatten_of_unambiguous hm hu, keys] using h
  rw [← flatten_of_unambiguous hm hu] at hleaves
  have hnodup := nodup_keys_insertAll (nodup_keys_flatten separator m) fields
  refine hnodup.pairwise_of_forall_ne fun key hkey other hother hne => ?_
  -- Each key is that of a leaf or of a stamp; both may be, for a leaf can be stamped in place.
  rw [mem_keys_insertAll_iff, hkeys] at hkey hother
  rcases hkey with hkey | hkey
  · rcases hother with hother | hother
    · exact hleaves.apart hkey hother hne
    · obtain ⟨leaf, hleaf, rfl⟩ := hflat key hkey
      exact (apart_of_stamp hm hu hleaf hother hne.symm).symm
  · rcases hother with hother | hother
    · obtain ⟨leaf, hleaf, rfl⟩ := hflat other hother
      exact apart_of_stamp hm hu hleaf hkey hne
    · rw [parts_of_mem_requiredFields hkey, parts_of_mem_requiredFields hother]
      exact apart_cons_iff.2 fun heq => absurd heq hne

theorem restored_of_unambiguous (hkeys : keys fields = requiredFields) :
    Restored m (.map (unflatten separator (insertAll (flatten separator m) fields))) := by
  intro leaf hleaf hnot
  have hparts := parts_joined separator_ne_empty (splits_of_unambiguous hm hu leaf hleaf)
  have hmem : joined separator leaf ∈ flatten separator m := by
    rw [flatten_of_unambiguous hm hu]
    exact List.mem_map_of_mem hleaf
  have hfields : get? fields (joined separator leaf).1 = none := by
    rw [get?_eq_none_iff, hkeys]
    exact fun hstamp => hnot _ hstamp (eq_singleton_of_joined hleaf hstamp)
  have hget : get? (insertAll (flatten separator m) fields) (joined separator leaf).1 =
      some leaf.2 := by
    rw [get?_insertAll (by rw [hkeys]; exact nodup_requiredFields), hfields, Option.none_or,
      get?_eq_some_iff (nodup_keys_flatten separator m)]
    exact hmem
  have hfound := (prefixFree_stored hm hu hkeys).at?_unflatten (mem_of_get?_eq_some hget)
  rwa [hparts] at hfound

theorem stamped_of_unambiguous (hkeys : keys fields = requiredFields) :
    Stamped (insertAll (flatten separator m) fields)
      (.map (unflatten separator (insertAll (flatten separator m) fields))) := by
  intro key hkey
  have hmem : key ∈ keys (insertAll (flatten separator m) fields) :=
    mem_keys_insertAll_iff.2 (Or.inr (hkeys ▸ hkey))
  obtain ⟨v, hget⟩ := Option.ne_none_iff_exists'.1 (mt get?_eq_none_iff.1 (not_not_intro hmem))
  have hfound := (prefixFree_stored hm hu hkeys).at?_unflatten (mem_of_get?_eq_some hget)
  rw [parts_of_mem_requiredFields hkey] at hfound
  exact ⟨v, hget, hfound⟩

end Clear

section Lost

variable (hfields : ∀ field ∈ fields, field.2.isMap = false)
  (hrestored : Restored m (.map (unflatten separator (insertAll (flatten separator m) fields))))
include hfields hrestored

/-- A leaf that is found at its path was stored under a key that is split into that path. -/
theorem splits_of_restored :
    ∀ leaf ∈ Value.leavesIn m, Text.Splits separator leaf.1 := by
  intro leaf hleaf
  by_cases hstamp : ∃ key ∈ requiredFields, leaf.1 = [key]
  · obtain ⟨key, hkey, hpath⟩ := hstamp
    rw [hpath]
    exact not_separator_of_mem_requiredFields hkey
  · have hnot : ∀ key ∈ requiredFields, leaf.1 ≠ [key] := fun key hkey hpath =>
      hstamp ⟨key, hkey, hpath⟩
    have hstored (field : String × Value)
        (h : field ∈ insertAll (flatten separator m) fields) : field.2.isMap = false := by
      rcases mem_of_mem_insertAll h with h | h
      · exact hfields field h
      · exact isMap_of_mem_flatten h
    exact splits_of_at?_unflatten separator_ne_empty hstored
      (Value.isMap_of_mem_leaves (v := .map m) hleaf) (hrestored leaf hleaf hnot)

/-- A stamp stands behind the leaves under a key that holds a map, and takes their place. -/
theorem free_of_restored (hm : WellNested m) (hkeys : keys fields = requiredFields) :
    ∀ field ∈ m, field.1 ∈ requiredFields → field.2.isMap = false := by
  rintro ⟨key, w⟩ hmem hkey
  by_contra hnot
  have hmap : w.isMap = true := by
    simpa using hnot
  obtain ⟨inner, hinner, hleaf⟩ := Value.exists_mem_leaves_of_field hm.filled hmem
  have hinside : inner.1 ≠ [] := Value.ne_nil_of_mem_leaves hmap hinner
  have hfound := hrestored _ hleaf fun _ _ heq => hinside (List.cons.inj heq).2
  obtain ⟨stamp, hstamp⟩ : ∃ stamp, (key, stamp) ∈ fields := by
    rw [← hkeys] at hkey
    simpa [keys] using hkey
  have hlast := at?_of_new_stamp hkeys
    (not_mem_keys_flatten (hm.distinct m (Value.self_mem_maps m)) hmem hmap hkey) hstamp
  -- The stamp is found at the key and is no map, so that nothing is found below it.
  obtain ⟨next, path, hnext⟩ := List.exists_cons_of_ne_nil hinside
  have hget : get? (unflatten separator (insertAll (flatten separator m) fields)) key =
      some stamp := by
    simpa [Value.at?] using hlast
  rw [Value.underKey, hnext, at?_cons, hget, Option.bind_some,
    at?_cons_of_not_map (hfields _ hstamp)] at hfound
  cases hfound

theorem unambiguous_of_restored (hm : WellNested m) (hkeys : keys fields = requiredFields) :
    Unambiguous m := by
  refine ⟨fun level hlevel field hfield hmap => ?_, free_of_restored hfields hrestored hm hkeys⟩
  have hreadable := readable_of_splits (v := .map m) hm.filled
    (fun leaf hleaf _ => splits_of_restored hfields hrestored leaf hleaf) level hlevel field hfield
  rw [if_pos hmap] at hreadable
  exact (Text.endsClear_pair_iff.1 hreadable).2

end Lost

end Reading

/-- When a nested map is read back from where it was saved.

The map is saved with a source of its identity and a writer, and a table holds what was
saved.  Read with its nested shape, the cell has every leaf of the map at its path and
every stamp at its key if the map is unambiguous.  If it is not, some leaf is lost;
only a writer that is itself a map could happen to put it back.
-/
theorem reads_back
    {m stored : PropertyMap} {hashBy updatedBy : Value} {now : Instant} {t : Response.Table}
    {row column : Nat} (hm : WellNested m)
    (hstored : legalize hashBy updatedBy now m = .ok stored)
    (hcell : Response.cellAt t.cells row column = some (.map stored)) :
    ∃ nested, Response.cellAt t.nestedRows row column = some nested ∧
      (Unambiguous m → Restored m nested ∧ Stamped stored nested) ∧
      (updatedBy.isMap = false → Restored m nested → Unambiguous m) := by
  obtain ⟨identity, -, rfl⟩ := legalize_eq_ok_iff.1 hstored
  refine ⟨_, by rw [Response.cellAt_nestedRows, hcell]; rfl, fun hu => ⟨?_, ?_⟩, fun hby h => ?_⟩
  · exact restored_of_unambiguous hm hu keys_stamps
  · exact stamped_of_unambiguous hm hu keys_stamps
  · have hstamps (field : String × Value)
        (hfield : field ∈ stamps identity updatedBy now (flatten separator m)) :
        field.2.isMap = false :=
      isMap_of_mem_stamps (fun field hflat => isMap_of_mem_flatten hflat) hby hfield
    exact unambiguous_of_restored hstamps h hm keys_stamps

/-- A note with an underscore at the end of one key and at the beginning of another. -/
def datedNote : PropertyMap :=
  [("k", .int 7), ("hash", .str "old"),
    ("note", .map [("by_", .str "ann"), ("on", .map [("_day", .int 3)])])]

def storedNote : PropertyMap :=
  [("k", .int 7), ("hash", .int 7), ("note__by_", .str "ann"), ("note__on___day", .int 3),
    ("hash_by", .str "k"), ("updated_by", .str "bot"),
    ("updated_when", .str "1970-01-01T00:00:00+00:00")]

def noteTable : Response.Table :=
  ⟨["u"], [⟨[.map storedNote], none⟩]⟩

/-- Underscores that do not end a key that holds a map do no harm. -/
theorem dated_note_is_read_back :
    WellNested datedNote ∧ legalize (.str "k") (.str "bot") ⟨0⟩ datedNote = .ok storedNote ∧
    Response.cellAt noteTable.cells 0 0 = some (.map storedNote) ∧
    ∃ nested, Response.cellAt noteTable.nestedRows 0 0 = some nested ∧
      Restored datedNote nested ∧ Stamped storedNote nested := by
  have hm : WellNested datedNote := ⟨by decide +kernel, by decide +kernel, by decide +kernel⟩
  have hu : Unambiguous datedNote := ⟨by decide +kernel, by decide +kernel⟩
  have hstored : legalize (.str "k") (.str "bot") ⟨0⟩ datedNote = .ok storedNote := by
    decide +kernel
  have hcell : Response.cellAt noteTable.cells 0 0 = some (.map storedNote) := by
    rfl
  obtain ⟨nested, hnested, hread, -⟩ := reads_back hm hstored hcell
  exact ⟨hm, hstored, hcell, nested, hnested, hread hu⟩

/-- A map under a key that ends in an underscore. -/
def underscored : PropertyMap :=
  [("k", .int 7), ("a_", .map [("b", .int 1)])]

def storedUnderscored : PropertyMap :=
  [("k", .int 7), ("a___b", .int 1), ("hash_by", .str "k"), ("hash", .int 7),
    ("updated_by", .str "bot"), ("updated_when", .str "1970-01-01T00:00:00+00:00")]

/-- The leaf of such a map is read back at another path. -/
theorem underscore_moves_leaf :
    WellNested underscored ∧
    legalize (.str "k") (.str "bot") ⟨0⟩ underscored = .ok storedUnderscored ∧
    (["a_", "b"], .int 1) ∈ Value.leavesIn underscored ∧
    Value.at? ["a_", "b"] (Response.nestedCell (.map storedUnderscored)) = none ∧
    Value.at? ["a", "_b"] (Response.nestedCell (.map storedUnderscored)) = some (.int 1) := by
  refine ⟨⟨?_, ?_, ?_⟩, ?_⟩ <;> decide +kernel

/-- The leaf of a map that stands where a stamp is put is lost. -/
example :
    (legalize (.str "k") (.str "bot") ⟨0⟩ [("k", .int 7), ("hash", .map [("x", .int 1)])]).map
      (fun stored => Value.at? ["hash", "x"] (Response.nestedCell (.map stored))) = .ok none := by
  decide +kernel

end PropertyMap
end CypherBatch
