import CypherBatch.Proofs.Reordering
import CypherBatch.Proofs.Restoring

/-!
# Identity by content

The identity by content is the digest of a canonical text, that of the flat map without its
stamps.  Two maps have one identity text exactly when they have, under every key that is not
stamped, values with one canonical text in their flat forms, or none.

The text says nothing of the order of flat keys, but the flat map itself may depend on the
order of keys in the nested one: leaves that are joined to one key are stored one over the
other, and the last one counts.  So a map has one identity in whatever order its keys are
exactly when it is settled: leaves that are joined to one key have one canonical text.
-/

namespace CypherBatch
namespace PropertyMap

variable {key : String} {m m' : PropertyMap}

/-- The canonical text that the identity of a map by content is taken from. -/
def identityText (m : PropertyMap) : String :=
  Json.canonical (.map (identityFields (flatten separator m)))

/-- The identity of a map by content. -/
def contentDigest (m : PropertyMap) : Value :=
  .str (Digest.sha256Hex (identityText m).toUTF8.toList)

/-- The canonical text of what the flat form of a map has under a key. -/
def flatText (m : PropertyMap) (key : String) : Option String :=
  (get? (flatten separator m) key).map Json.canonical

section Texts

theorem get?_identityFields (m : PropertyMap) (key : String) :
    get? (identityFields m) key = if key ∈ requiredFields then none else get? m key := by
  rw [identityFields, get?_filter (!requiredFields.contains ·)]
  by_cases h : key ∈ requiredFields <;> simp [h]

/-- Identity texts are the same exactly when the texts under all keys are that are not stamped. -/
theorem identityText_eq_iff :
    identityText m = identityText m' ↔
      ∀ key, key ∉ requiredFields → flatText m key = flatText m' key := by
  have hnodup (m : PropertyMap) : (keys (identityFields (flatten separator m))).Nodup :=
    nodup_keys_filter (nodup_keys_flatten separator m) (!requiredFields.contains ·)
  rw [identityText, identityText, Json.canonical_map_eq_iff (hnodup m) (hnodup m')]
  refine forall_congr' fun key => ?_
  rw [get?_identityFields, get?_identityFields]
  by_cases h : key ∈ requiredFields <;> simp [h, flatText]

end Texts

section Choosing

variable {hashBy : Value}

/-- Without a source of its identity, in the call or in the map, a map has one by content. -/
theorem choose_of_not_mem
    (hnodup : (keys m).Nodup) (h : "hash_by" ∉ keys m) :
    Identity.choose .null (flatten separator m) = .ok .content := by
  have hnone : get? (flatten separator m) "hash_by" = none := by
    rw [get?_flatten_of_mem_requiredFields hnodup (by decide), get?_eq_none_iff.2 h,
      Option.filter_none]
  simp [Identity.choose, Identity.requested, hnone, Value.isVacant]

/-- A map that has its identity by content is stamped with the digest. -/
theorem legalize_of_content
    (h : Identity.choose hashBy (flatten separator m) = .ok .content) (updatedBy : Value)
    (now : Instant) :
    ∃ stored, legalize hashBy updatedBy now m = .ok stored ∧
      stored = insertAll (flatten separator m)
        (stamps .content updatedBy now (flatten separator m)) ∧
      get? stored "hash" = some (contentDigest m) := by
  exact ⟨_, legalize_eq_ok_iff.2 ⟨.content, h, rfl⟩, rfl, get?_hash_stamped _ _ _ _⟩

end Choosing

/-- Do leaves that are joined to one key have one canonical text? -/
def Settled (m : PropertyMap) : Prop :=
  ∀ leaf ∈ Value.leavesIn m, ∀ other ∈ Value.leavesIn m,
    separator.intercalate leaf.1 = separator.intercalate other.1 →
      Json.canonical leaf.2 = Json.canonical other.2

instance (m : PropertyMap) : Decidable (Settled m) :=
  inferInstanceAs (Decidable (∀ leaf ∈ Value.leavesIn m, ∀ other ∈ Value.leavesIn m,
    separator.intercalate leaf.1 = separator.intercalate other.1 →
      Json.canonical leaf.2 = Json.canonical other.2))

/-- Is a map another one with its keys in another order, at every level? -/
structure Reordered (m m' : PropertyMap) : Prop where
  distinct : (Value.map m').hasDistinctKeys = true
  alike : (Value.map m).alike (.map m') = true

section Reordering

variable (hm : (Value.map m).hasDistinctKeys = true)
include hm

/-- What counts under a key of a settled map has one text with what counts there in a map with
the same leaves. -/
theorem exists_get?_flatten_of_settled
    (hm' : (Value.map m').hasDistinctKeys = true)
    (h : Json.canonical (.map m) = Json.canonical (.map m')) (hsettled : Settled m) {v : Value}
    (hget : get? (flatten separator m) key = some v) :
    ∃ w, get? (flatten separator m') key = some w ∧ Json.canonical v = Json.canonical w := by
  obtain ⟨path, hleaf, rfl⟩ := exists_leaf_of_get?_flatten hget
  obtain ⟨y, hy, -⟩ := Value.exists_mem_leaves_of_canonical_eq hm hm' h hleaf
  obtain ⟨w, hget'⟩ := exists_get?_flatten separator hy
  -- The leaf that counts there may be at another path, but it has a counterpart here, too.
  obtain ⟨path', hleaf', hpath'⟩ := exists_leaf_of_get?_flatten hget'
  obtain ⟨x, hx, htext⟩ := Value.exists_mem_leaves_of_canonical_eq hm' hm h.symm hleaf'
  exact ⟨w, hget', (hsettled _ hleaf _ hx hpath'.symm).trans htext.symm⟩

/-- In whatever order its keys are, a settled map has one identity text. -/
theorem identityText_eq_of_settled
    (hsettled : Settled m) (h : Reordered m m') :
    identityText m' = identityText m := by
  have htext := Json.canonical_eq_of_alike hm h.distinct h.alike
  refine identityText_eq_iff.2 fun key _ => ?_
  rw [flatText, flatText]
  cases hget : get? (flatten separator m) key with
  | some v =>
      obtain ⟨w, hget', hvalue⟩ := exists_get?_flatten_of_settled hm h.distinct htext hsettled hget
      rw [hget', Option.map_some, Option.map_some, hvalue]
  | none =>
      cases hget' : get? (flatten separator m') key with
      | none =>
          rfl
      | some w =>
          obtain ⟨path, hleaf, rfl⟩ := exists_leaf_of_get?_flatten hget'
          obtain ⟨x, hx, -⟩ :=
            Value.exists_mem_leaves_of_canonical_eq h.distinct hm htext.symm hleaf
          obtain ⟨v, hfound⟩ := exists_get?_flatten separator hx
          rw [hget] at hfound
          cases hfound

/-- Each leaf of a map is the one that counts in some order of the keys. -/
theorem exists_reordered_get?_flatten
    {path : List String} {x : Value} (hleaf : (path, x) ∈ Value.leavesIn m) :
    ∃ m', Reordered m m' ∧
      get? (flatten separator m') (separator.intercalate path) = some x := by
  have hdistinct := Value.hasDistinctKeys_moveLast hm path
  have halike := Value.alike_moveLast hm path
  obtain ⟨before, hlast⟩ :=
    Value.exists_leaves_moveLast_eq_append (Value.distinct_of_hasDistinctKeys hm) hleaf
  obtain ⟨m', hmoved, -⟩ := Value.alike_map_iff.1 halike
  rw [hmoved] at hdistinct halike hlast
  refine ⟨m', ⟨hdistinct, halike⟩, ?_⟩
  rw [Value.leaves] at hlast
  rw [get?_flatten, hlast, List.map_append, List.reverse_append]
  simp [joined, get?]

theorem settled_of_identityText_eq
    (h : ∀ m', Reordered m m' → identityText m' = identityText m) :
    Settled m := by
  rintro ⟨path, x⟩ hx ⟨path', y⟩ hy hkey
  by_cases hstamp : separator.intercalate path ∈ requiredFields
  · -- Both leaves are directly under the key, and so they are one.
    have hpath : path = [separator.intercalate path] := eq_singleton_of_joined hx hstamp
    have hpath' : path' = [separator.intercalate path'] :=
      eq_singleton_of_joined hy (by rwa [joined, ← hkey])
    have hdistinct := Value.distinct_of_hasDistinctKeys hm
    have hfound := Value.at?_of_mem_leaves (v := .map m) hdistinct hx
    have hfound' := Value.at?_of_mem_leaves (v := .map m) hdistinct hy
    rw [hpath, hkey, ← hpath', hfound', Option.some.injEq] at hfound
    exact congrArg Json.canonical hfound.symm
  · obtain ⟨m', hm', hget⟩ := exists_reordered_get?_flatten hm hx
    obtain ⟨m'', hm'', hget'⟩ := exists_reordered_get?_flatten hm hy
    have htext := identityText_eq_iff.1 ((h m' hm').trans (h m'' hm'').symm) _ hstamp
    rw [flatText, flatText, hget, hkey, hget'] at htext
    exact Option.some.inj htext

/-- A map without a source of its identity has one by content, in whatever order its keys are.

It is the digest of the identity text, which is the same in every order of the keys exactly when
the map is settled.
-/
theorem content_identity_of_reordered
    (hsource : "hash_by" ∉ keys m) :
    (∀ m', Reordered m m' → ∀ updatedBy updatedBy' now now', ∃ stored stored',
      legalize .null updatedBy now m = .ok stored ∧
      legalize .null updatedBy' now' m' = .ok stored' ∧
      get? stored "hash" = some (contentDigest m) ∧
      get? stored' "hash" = some (contentDigest m') ∧
      (Settled m → get? stored' "hash" = get? stored "hash")) ∧
    ((∀ m', Reordered m m' → identityText m' = identityText m) ↔ Settled m) := by
  refine ⟨fun m' h updatedBy updatedBy' now now' => ?_, settled_of_identityText_eq hm,
    fun hsettled m' h => identityText_eq_of_settled hm hsettled h⟩
  have hnodup := (Value.hasDistinctKeys_map_iff.1 hm).1
  have hnodup' := (Value.hasDistinctKeys_map_iff.1 h.distinct).1
  have hsource' : "hash_by" ∉ keys m' := by
    obtain ⟨gs, heq, hkeys, -⟩ := Value.alike_map_iff.1 h.alike
    cases heq
    exact fun hmem => hsource (hkeys _ hmem)
  obtain ⟨stored, hstored, -, hhash⟩ :=
    legalize_of_content (choose_of_not_mem hnodup hsource) updatedBy now
  obtain ⟨stored', hstored', -, hhash'⟩ :=
    legalize_of_content (choose_of_not_mem hnodup' hsource') updatedBy' now'
  refine ⟨stored, stored', hstored, hstored', hhash, hhash', fun hsettled => ?_⟩
  rw [hhash, hhash', contentDigest, contentDigest, identityText_eq_of_settled hm hsettled h]

end Reordering

/-- A map in which two leaves are joined to one key, and have one text. -/
def doubled : PropertyMap :=
  [("a", .map [("b", .list [.null, .str "x"]), ("c", .map [("d", .int 1), ("e", .bool true)])]),
    ("a__b", .list [.null, .str "x"]), ("n", .int 2)]

def doubledBackwards : PropertyMap :=
  [("n", .int 2), ("a__b", .list [.null, .str "x"]),
    ("a", .map [("c", .map [("e", .bool true), ("d", .int 1)]), ("b", .list [.null, .str "x"])])]

/-- Which of the two leaves counts makes no difference then. -/
theorem doubled_has_one_identity :
    (Value.map doubled).hasDistinctKeys = true ∧ "hash_by" ∉ keys doubled ∧ Settled doubled ∧
    Reordered doubled doubledBackwards ∧
    ∃ stored stored', legalize .null (.str "bot") ⟨0⟩ doubled = .ok stored ∧
      legalize .null (.str "ann") ⟨1⟩ doubledBackwards = .ok stored' ∧
      get? stored' "hash" = get? stored "hash" := by
  have hm : (Value.map doubled).hasDistinctKeys = true := by
    decide +kernel
  have hsource : "hash_by" ∉ keys doubled := by
    decide +kernel
  have hsettled : Settled doubled := by
    decide +kernel
  have hreordered : Reordered doubled doubledBackwards :=
    ⟨by decide +kernel, by decide +kernel⟩
  obtain ⟨stored, stored', hstored, hstored', -, -, hsame⟩ :=
    (content_identity_of_reordered hm hsource).1 _ hreordered (.str "bot") (.str "ann") ⟨0⟩ ⟨1⟩
  exact ⟨hm, hsource, hsettled, hreordered, stored, stored', hstored, hstored', hsame hsettled⟩

/-- A map in which two leaves are joined to one key, and have different texts. -/
def tangled : PropertyMap :=
  [("a", .map [("b", .int 1)]), ("a__b", .int 2)]

def tangledBackwards : PropertyMap :=
  [("a__b", .int 2), ("a", .map [("b", .int 1)])]

/-- The last of the two leaves decides on the identity. -/
theorem tangled_has_two_identities :
    (Value.map tangled).hasDistinctKeys = true ∧ "hash_by" ∉ keys tangled ∧
    Reordered tangled tangledBackwards ∧
    ∃ stored stored', legalize .null (.str "bot") ⟨0⟩ tangled = .ok stored ∧
      legalize .null (.str "bot") ⟨0⟩ tangledBackwards = .ok stored' ∧
      get? stored "hash" ≠ get? stored' "hash" := by
  have hsource : Identity.choose .null (flatten separator tangled) = .ok .content := by
    decide +kernel
  have hsource' : Identity.choose .null (flatten separator tangledBackwards) = .ok .content := by
    decide +kernel
  obtain ⟨stored, hstored, -, hhash⟩ := legalize_of_content hsource (.str "bot") ⟨0⟩
  obtain ⟨stored', hstored', -, hhash'⟩ := legalize_of_content hsource' (.str "bot") ⟨0⟩
  refine ⟨by decide +kernel, by decide +kernel, ⟨by decide +kernel, by decide +kernel⟩,
    stored, stored', hstored, hstored', ?_⟩
  rw [hhash, hhash']
  decide +kernel

end PropertyMap
end CypherBatch
