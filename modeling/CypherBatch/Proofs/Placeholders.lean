import CypherBatch.Proofs.Clauses
import CypherBatch.Proofs.Entities
import CypherBatch.Proofs.Renderers
import CypherBatch.Proofs.Scanning

/-!
# Placeholders and parameters

Each renderer writes the text and the parameters of a statement by separate means.
Here both are compared: the facets whose placeholders occur in the text are those
whose property maps are among the parameters, and these maps are not empty.
-/

namespace CypherBatch
namespace Placeholder

open Place Scans

theorem scans_text {text : List Char} (hne : text ≠ []) (h : ∀ c ∈ text, IsPlain c) :
    Scans Clear text Outside [] := by
  obtain ⟨c, cs, hcons⟩ := List.exists_cons_of_ne_nil hne
  rw [hcons] at h ⊢
  exact of_plain_cons h

section Pieces

theorem scans_match : Scans Clear "MATCH ".toList Outside [] :=
  scans_text (by simp) (by simp [IsPlain, Name.tick])

theorem scans_space : Scans Clear " ".toList Outside [] :=
  scans_text (by simp) (by simp [IsPlain, Name.tick])

theorem scans_comma : Scans Clear ", ".toList Outside [] :=
  scans_text (by simp) (by simp [IsPlain, Name.tick])

theorem scans_dash : Scans Clear "-".toList Outside [] :=
  scans_text (by simp) (by simp [IsPlain, Name.tick])

theorem scans_arrow : Scans Clear "->".toList Outside [] :=
  scans_text (by simp) (by simp [IsPlain, Name.tick])

theorem scans_return_node : Scans Clear " RETURN u".toList Outside [] :=
  scans_text (by simp) (by simp [IsPlain, Name.tick])

theorem scans_return_edge : Scans Clear " RETURN e".toList Outside [] :=
  scans_text (by simp) (by simp [IsPlain, Name.tick])

theorem isPlain_varName (facet : Facet) : ∀ c ∈ facet.varName.toList, IsPlain c := by
  cases facet <;> simp [Facet.varName, IsPlain, Name.tick]

theorem scans_varName (facet : Facet) : Scans Clear facet.varName.toList Outside [] :=
  scans_text (by cases facet <;> simp [Facet.varName]) (isPlain_varName facet)

end Pieces

section Patterns

variable {facet : Facet} {x : Entity}

/-- The facet of an entity whose property map is not empty. -/
def mentioned (facet : Facet) (x : Entity) : List Facet :=
  if x.boundProps?.isSome then [facet] else []

theorem scans_labelText (labels : List String) :
    Scans Clear (Name.labelText labels).toList Clear [] := by
  simp only [Name.labelText, String.toList_join, List.flatMap_map]
  induction labels.filter (· ≠ "") with
  | nil =>
      exact Scans.nil Clear
  | cons label labels ih =>
      have hcolon : Scans Clear [':'] Outside [] := of_plain_cons (by simp [IsPlain, Name.tick])
      have hlabel := (hcolon.append (of_quoted label.toList)).append ih
      simpa [Name.quote] using hlabel

/-- What a field of a literal map has behind its key. -/
def fieldRest (facet : Facet) (key : String) : List Char :=
  ' ' :: (target facet ++ '.' :: Name.quotedChars key.toList)

theorem scans_fieldRest (facet : Facet) (key : String) :
    Scans Clear (fieldRest facet key) Clear [facet] := by
  have hspace : Scans Clear [' '] Outside [] := of_plain_cons (by simp [IsPlain, Name.tick])
  have hdot : Scans Clear ['.'] Outside [] := of_plain_cons (by simp [IsPlain, Name.tick])
  have hfield := (hspace.followed (of_target facet)).append
    (hdot.from_outside.append (of_quoted key.toList))
  simpa [fieldRest] using hfield

theorem toList_literalField (facet : Facet) (key : String) :
    (Pattern.literalField facet.paramName key).toList =
      Name.quotedChars key.toList ++ ':' :: fieldRest facet key := by
  simp [Pattern.literalField, Name.quote, fieldRest, target]

/-- A literal map has the placeholder of its facet, if it has any key. -/
theorem scans_literal (facet : Facet) {keys : List String} (hne : keys ≠ []) :
    Scans Clear (Pattern.literal facet.paramName keys).toList Outside [facet] := by
  obtain ⟨key, keys, rfl⟩ := List.exists_cons_of_ne_nil hne
  have hfields : Scans Clear (keys.flatMap fun key => ", ".toList ++
      (Pattern.literalField facet.paramName key).toList) Clear (keys.map fun _ => facet) := by
    induction keys with
    | nil =>
        exact Scans.nil Clear
    | cons next keys ih =>
        have hcolon : Scans Clear [':'] Outside [] :=
          of_plain_cons (by simp [IsPlain, Name.tick])
        have hfield := (scans_comma.append (of_quoted next.toList)).append
          (hcolon.followed (scans_fieldRest facet next))
        have hall := hfield.append (ih (by simp))
        simpa [toList_literalField] using hall
  have hclose : Scans Clear ['\x7d'] Outside [] := of_plain_cons (by simp [IsPlain, Name.tick])
  have hliteral := ((of_brace key.toList).followed (scans_fieldRest facet key)).append
    (hfields.append hclose)
  have htext : (Pattern.literal facet.paramName (key :: keys)).toList =
      ('\x7b' :: (Name.quotedChars key.toList ++ [':'])) ++ fieldRest facet key ++
        ((keys.flatMap fun key => ", ".toList ++
          (Pattern.literalField facet.paramName key).toList) ++ ['\x7d']) := by
    rw [Pattern.toList_literal_cons, toList_literalField]
    simp
  rw [htext]
  exact hliteral.congr (by simp)

theorem mem_mentioned_iff {other : Facet} :
    other ∈ mentioned facet x ↔ other = facet ∧ x.boundProps?.isSome = true := by
  unfold mentioned
  split
  · rename_i h
    simp [h]
  · rename_i h
    simp [h]

theorem boundKeys_eq_nil_iff : Pattern.boundKeys x = [] ↔ x.boundProps? = none := by
  obtain ⟨binding, labels⟩ := x
  match binding with
  | .free | .distance _ | .props [] | .props (_ :: _) =>
      simp [Pattern.boundKeys, Entity.props?, Entity.boundProps?, PropertyMap.keys]

/-- A part of a pattern stands behind a space, unless it is empty. -/
theorem scans_part
    {part : String} {facets : List Facet}
    (h : part ≠ "" → Scans Clear part.toList Clear facets) (hempty : part = "" → facets = []) :
    Scans Clear (([part].filter (· ≠ "")).flatMap fun part => ' ' :: part.toList) Clear facets := by
  by_cases hpart : part = ""
  · rw [hempty hpart, hpart]
    exact Scans.nil Clear
  · have hspace : Scans Clear [' '] Outside [] := of_plain_cons (by simp [IsPlain, Name.tick])
    have hscan := hspace.followed (h hpart)
    simpa [hpart] using hscan

theorem scans_distance {text : String} (h : ∀ c ∈ text.toList, IsPlain c) :
    text ≠ "" → Scans Clear text.toList Clear [] :=
  fun hne => (scans_text (by simpa using hne) h).to_clear

/-- Behind its labels a pattern has a literal map or a distance. -/
theorem scans_rest (hdistance : ∀ c ∈ (Pattern.distanceText x).toList, IsPlain c) :
    Scans Clear (Pattern.rest facet x) Clear (mentioned facet x) := by
  have hliteral : Scans Clear
      (([Pattern.literal facet.paramName (Pattern.boundKeys x)].filter (· ≠ "")).flatMap
        fun part => ' ' :: part.toList) Clear (mentioned facet x) := by
    cases hkeys : Pattern.boundKeys x with
    | nil =>
        refine scans_part (fun hne => absurd rfl hne) fun _ => ?_
        simp [mentioned, boundKeys_eq_nil_iff.1 hkeys]
    | cons key keys =>
        have hprops : x.boundProps?.isSome = true := by
          rw [Option.isSome_iff_ne_none, Ne, ← boundKeys_eq_nil_iff, hkeys]
          simp
        have hmentioned : mentioned facet x = [facet] := by simp [mentioned, hprops]
        rw [hmentioned]
        refine scans_part (fun _ => (scans_literal facet (by simp)).to_clear) fun hempty => ?_
        have hchars := congrArg String.toList hempty
        rw [Pattern.toList_literal_cons] at hchars
        simp at hchars
  have hrest := hliteral.append (scans_part (scans_distance hdistance) fun _ => rfl)
  rw [List.append_nil, ← List.flatMap_append, ← List.filter_append] at hrest
  exact hrest

theorem scans_body (hdistance : ∀ c ∈ (Pattern.distanceText x).toList, IsPlain c) :
    Scans Clear (Pattern.body facet x).toList Clear (mentioned facet x) := by
  rw [Pattern.toList_body]
  exact (scans_varName facet).followed ((scans_labelText x.labels).append (scans_rest hdistance))

theorem scans_node (facet : Facet) (hdistance : x.distance? = none) :
    Scans Clear (Pattern.node facet x).toList Outside (mentioned facet x) := by
  have hopen : Scans Clear "(".toList Outside [] :=
    scans_text (by simp) (by simp [IsPlain, Name.tick])
  have hclose : Scans Clear ")".toList Outside [] :=
    scans_text (by simp) (by simp [IsPlain, Name.tick])
  have hbody : Scans Clear (Pattern.body facet x).toList Clear (mentioned facet x) :=
    scans_body (by simp [Pattern.distanceText, hdistance])
  rw [Pattern.node, String.toList_append, String.toList_append]
  exact ((hopen.followed hbody).append hclose).congr (by simp)

theorem scans_edge (hdistance : ∀ c ∈ (Pattern.distanceText x).toList, IsPlain c) :
    Scans Clear (Pattern.edge x).toList Outside (mentioned .edge x) := by
  have hopen : Scans Clear "[".toList Outside [] :=
    scans_text (by simp) (by simp [IsPlain, Name.tick])
  have hclose : Scans Clear "]".toList Outside [] :=
    scans_text (by simp) (by simp [IsPlain, Name.tick])
  rw [Pattern.edge, String.toList_append, String.toList_append]
  exact ((hopen.followed (scans_body hdistance)).append hclose).congr (by simp)

end Patterns

section Writings

/-- The variable of a facet between two texts, and its placeholder behind them. -/
def assigned (facet : Facet) (first last : String) : List Char :=
  first.toList ++ (facet.varName.toList ++ (last.toList ++ target facet))

theorem scans_assigned
    (facet : Facet) {first last : String} (hne : first ≠ "")
    (hfirst : ∀ c ∈ first.toList, IsPlain c) (hlast : ∀ c ∈ last.toList, IsPlain c) :
    Scans Clear (assigned facet first last) Outside [facet] := by
  have hopen : Scans Clear first.toList Outside [] := scans_text (by simpa using hne) hfirst
  have hvar := (of_plain (isPlain_varName facet)).append
    ((of_plain hlast).followed (of_target facet))
  exact hopen.append hvar

theorem toList_upsert (facet : Facet) :
    (Pattern.upsert facet).toList =
      assigned facet "ON CREATE SET " " = " ++ (assigned facet ", " ".created_by = " ++
        (assigned facet ".updated_by, " ".created_when = " ++
          assigned facet ".updated_when ON MATCH SET " " += ")) := by
  unfold Pattern.upsert assigned target
  simp only [Pattern.provenance, List.map_cons, List.map_nil, String.toList_append,
    Pattern.toList_intercalate_cons, List.flatMap_cons, List.flatMap_nil]
  simp

/-- What happens on creation and on a match is taken from the property map. -/
theorem scans_upsert (facet : Facet) :
    Scans Clear (Pattern.upsert facet).toList Outside [facet] := by
  have hcreate : Scans Clear (assigned facet "ON CREATE SET " " = ") Outside [facet] :=
    scans_assigned facet (by simp) (by simp [IsPlain, Name.tick]) (by simp [IsPlain, Name.tick])
  have hby : Scans Clear (assigned facet ", " ".created_by = ") Outside [facet] :=
    scans_assigned facet (by simp) (by simp [IsPlain, Name.tick]) (by simp [IsPlain, Name.tick])
  have hwhen : Scans Clear (assigned facet ".updated_by, " ".created_when = ") Outside [facet] :=
    scans_assigned facet (by simp) (by simp [IsPlain, Name.tick]) (by simp [IsPlain, Name.tick])
  have hmatch : Scans Clear (assigned facet ".updated_when ON MATCH SET " " += ") Outside [facet] :=
    scans_assigned facet (by simp) (by simp [IsPlain, Name.tick]) (by simp [IsPlain, Name.tick])
  rw [toList_upsert]
  exact (hcreate.followed (hby.followed (hwhen.followed hmatch))).congr
    (by simp)

theorem toList_mergeBody (facet : Facet) (labels : List String) :
    (Pattern.mergeBody facet labels).toList =
      facet.varName.toList ++ ((Name.labelText labels).toList ++ (" ".toList ++
        ('\x7b' :: (Name.quotedChars "hash".toList ++ [':']) ++ (" ".toList ++
          (target facet ++ ".hash\x7d".toList))))) := by
  have hkey : Name.quotedChars "hash".toList = "hash".toList := by
    decide
  rw [hkey]
  simp [Pattern.mergeBody, target]

/-- What is merged is found by the hash of the property map. -/
theorem scans_mergeBody (facet : Facet) (labels : List String) :
    Scans Clear (Pattern.mergeBody facet labels).toList Outside [facet] := by
  have hhash : Scans Clear ".hash\x7d".toList Outside [] :=
    scans_text (by simp) (by simp [IsPlain, Name.tick])
  have hkey := (of_brace "hash".toList).followed
    (scans_space.followed ((of_target facet).followed hhash))
  rw [toList_mergeBody]
  have hrest := (scans_labelText labels).append (scans_space.followed hkey)
  exact ((scans_varName facet).followed hrest).congr (by simp)

end Writings

section Params

theorem mem_keys_iff {m : PropertyMap} {key : String} :
    key ∈ PropertyMap.keys m ↔ ∃ v, (key, v) ∈ m := by
  simp [PropertyMap.keys]

theorem ne_nil_of_boundProps? {x : Entity} {fields : PropertyMap}
    (h : x.boundProps? = some fields) :
    fields ≠ [] := by
  obtain ⟨binding, labels⟩ := x
  match binding, h with
  | .props (_ :: _), h =>
      obtain rfl := Option.some.inj h
      simp

end Params

/-- The placeholders in the text of a statement are those of the parameters, non-empty maps. -/
structure Binds (s : Statement) (facets : List Facet) : Prop where
  text : Scans Clear s.query.toList Outside facets
  keys : ∀ key, key ∈ PropertyMap.keys s.params ↔ ∃ facet ∈ facets, facet.paramName = key
  maps : ∀ key v, (key, v) ∈ s.params → ∃ fields, fields ≠ [] ∧ v = .map fields

theorem Binds.occurs_iff
    {s : Statement} {facets : List Facet} (h : Binds s facets) (facet : Facet) :
    occurs facet s.query = true ↔ facet ∈ facets := by
  obtain ⟨behind, -, htext⟩ := h.text outside (clear_of_outside rfl)
  have hscan := htext facet []
  rw [List.append_nil] at hscan
  rw [occurs, hscan, occursFrom]
  simp

section Params

variable {facets : List (Facet × Entity)}

theorem keys_params (facets : List (Facet × Entity)) (key : String) :
    key ∈ PropertyMap.keys (Pattern.params facets) ↔
      ∃ facet ∈ facets.flatMap (fun (facet, x) => mentioned facet x), facet.paramName = key := by
  simp only [mem_keys_iff, Pattern.mem_params_iff, List.mem_flatMap, Prod.exists, mem_mentioned_iff,
    Option.isSome_iff_exists]
  constructor
  · rintro ⟨v, facet, x, fields, hmem, hprops, rfl, rfl⟩
    exact ⟨facet, ⟨facet, x, hmem, rfl, fields, hprops⟩, rfl⟩
  · rintro ⟨facet, ⟨_, x, hmem, rfl, fields, hprops⟩, rfl⟩
    exact ⟨.map fields, facet, x, fields, hmem, hprops, rfl, rfl⟩

theorem maps_params (facets : List (Facet × Entity)) (key : String) (v : Value)
    (h : (key, v) ∈ Pattern.params facets) :
    ∃ fields, fields ≠ [] ∧ v = .map fields := by
  obtain ⟨facet, x, fields, -, hprops, -, rfl⟩ := Pattern.mem_params_iff.1 h
  exact ⟨fields, ne_nil_of_boundProps? hprops, rfl⟩

end Params

section Statements

open Render

variable {a b e x : Entity} {labels : List String} {fields : PropertyMap} {clauses : ClauseSet}

theorem binds_foundNode (hdistance : x.distance? = none) :
    Binds (foundNode x) (mentioned .node x) where
  text := by
    simp only [foundNode, String.toList_append]
    have hnode := scans_match.followed (scans_node .node hdistance)
    exact (hnode.followed scans_return_node).congr (by simp)
  keys := fun key => (keys_params [(.node, x)] key).trans (by simp)
  maps := maps_params _

theorem ne_nil_of_isLegal (h : Value.isLegal (.map fields) = true) : fields ≠ [] := by
  rintro rfl
  cases h

theorem binds_savedNode (hlegal : Value.isLegal (.map fields) = true) :
    Binds (savedNode labels fields) [.node] where
  text := by
    have hmerge : Scans Clear "MERGE (".toList Outside [] :=
      scans_text (by simp) (by simp [IsPlain, Name.tick])
    have hclose : Scans Clear ") ".toList Outside [] :=
      scans_text (by simp) (by simp [IsPlain, Name.tick])
    have hbody := (hmerge.followed (scans_mergeBody .node labels)).followed hclose
    simp only [savedNode, String.toList_append]
    exact ((hbody.followed (scans_upsert .node)).followed scans_return_node).congr (by simp)
  keys := by simp [savedNode, PropertyMap.keys, eq_comm]
  maps := by
    intro key v h
    simp only [savedNode, List.mem_singleton, Prod.mk.injEq] at h
    exact ⟨fields, ne_nil_of_isLegal hlegal, h.2⟩

theorem binds_foundEdge
    (ha : a.distance? = none) (he : ∀ c ∈ (Pattern.distanceText e).toList, IsPlain c)
    (hb : b.distance? = none) :
    Binds (foundEdge a e b) (mentioned .source a ++ mentioned .edge e ++ mentioned .target b) where
  text := by
    have hsource := (scans_match.followed (scans_node .source ha)).followed scans_dash
    have hedge := (hsource.followed (scans_edge he)).followed scans_arrow
    simp only [foundEdge, String.toList_append]
    exact ((hedge.followed (scans_node .target hb)).followed scans_return_edge).congr (by simp)
  keys := fun key => (keys_params [(.source, a), (.edge, e), (.target, b)] key).trans (by simp)
  maps := maps_params _

theorem binds_savedEdge
    (ha : a.distance? = none) (hb : b.distance? = none)
    (hlegal : Value.isLegal (.map fields) = true) :
    Binds (savedEdge labels fields a b)
      (mentioned .source a ++ mentioned .target b ++ [.edge]) where
  text := by
    have hmerge : Scans Clear " MERGE (a)-[".toList Outside [] :=
      scans_text (by simp) (by simp [IsPlain, Name.tick])
    have harrow : Scans Clear "]->(b) ".toList Outside [] :=
      scans_text (by simp) (by simp [IsPlain, Name.tick])
    have hsource := (scans_match.followed (scans_node .source ha)).followed scans_comma
    have htarget := (hsource.followed (scans_node .target hb)).followed hmerge
    have hedge := (htarget.followed (scans_mergeBody .edge labels)).followed harrow
    simp only [savedEdge, String.toList_append]
    exact ((hedge.followed (scans_upsert .edge)).followed scans_return_edge).congr (by simp)
  keys := by
    intro key
    have hparams := keys_params [(.source, a), (.target, b)] key
    simp only [PropertyMap.keys] at hparams
    simp only [savedEdge, PropertyMap.keys, List.map_append, List.mem_append, hparams]
    simp [or_and_right, exists_or, eq_comm]
  maps := by
    intro key v h
    simp only [savedEdge, List.mem_append, List.mem_singleton, Prod.mk.injEq] at h
    rcases h with h | ⟨-, rfl⟩
    · exact maps_params _ key v h
    · exact ⟨fields, ne_nil_of_isLegal hlegal, rfl⟩

theorem binds_foundFirst
    (ha : a.distance? = none) (htail : ∀ c ∈ clauses.tail.toList, IsPlain c) :
    Binds (foundFirst clauses a) (mentioned .source a) where
  text := by
    have hhead := (scans_match.followed (scans_node .source ha)).followed scans_space
    simp only [foundFirst, String.toList_append]
    exact (hhead.append (of_plain htail)).congr (by simp)
  keys := fun key => (keys_params [(.source, a)] key).trans (by simp)
  maps := maps_params _

theorem scans_graphBody
    (path : Option String) (hpath : ∀ keyword ∈ path, ∀ c ∈ keyword.toList, IsPlain c)
    (he : ∀ c ∈ (Pattern.distanceText e).toList, IsPlain c) (hb : b.distance? = none) :
    Scans Clear (graphBody path e b).toList Outside (mentioned .edge e ++ mentioned .target b) := by
  cases path with
  | some keyword =>
      have hvar : Scans Clear ", p=".toList Outside [] :=
        scans_text (by simp) (by simp [IsPlain, Name.tick])
      have hopen : Scans Clear "((a)-".toList Outside [] :=
        scans_text (by simp) (by simp [IsPlain, Name.tick])
      have hclose : Scans Clear "->(b))".toList Outside [] :=
        scans_text (by simp) (by simp [IsPlain, Name.tick])
      have htarget := (scans_comma.followed (scans_node .target hb)).followed hvar
      have hkeyword := (htarget.append (of_plain (hpath keyword rfl))).followed hopen
      simp only [graphBody, String.toList_append]
      exact ((hkeyword.followed (scans_edge he)).followed hclose).congr
        (by simp [or_comm])
  | none =>
      have hedge := (scans_dash.followed (scans_edge he)).followed scans_arrow
      simp only [graphBody, String.toList_append]
      exact (hedge.followed (scans_node .target hb)).congr (by simp)

theorem binds_foundGraph
    (ha : a.distance? = none) (he : ∀ c ∈ (Pattern.distanceText e).toList, IsPlain c)
    (hb : b.distance? = none)
    (hpath : ∀ keyword ∈ clauses.path, ∀ c ∈ keyword.toList, IsPlain c)
    (htail : ∀ c ∈ clauses.tail.toList, IsPlain c) :
    Binds (foundGraph clauses a e b)
      (mentioned .source a ++ mentioned .edge e ++ mentioned .target b) where
  text := by
    have hsource := (scans_match.followed (scans_node .source ha)).followed
      (scans_graphBody clauses.path hpath he hb)
    simp only [foundGraph, String.toList_append]
    exact ((hsource.followed scans_space).append (of_plain htail)).congr (by simp)
  keys := fun key =>
    (keys_params [(.source, a), (.edge, e), (.target, b)] key).trans (by simp)
  maps := maps_params _

end Statements

section Distances

/-- The distances among the items of a group. -/
def distances (group : Value) : List String :=
  (group.spliced.filterMap Value.text?).filter Value.isDistanceText

variable {group : Value} {x : Entity}

/-- Only a distance binds an entity by a distance. -/
theorem eq_str_of_binding?_distance
    {v : Value} {text : String}
    (h : (EntityPart.ofValue v).binding? = some (.distance text)) :
    v = .str text ∧ Value.isDistanceText text = true := by
  match v with
  | .null | .bool _ | .int _ | .float _ | .map _ | .list [] =>
      simp [EntityPart.ofValue, EntityPart.binding?, Value.labelNames?, Value.labelName?] at h
  | .str s =>
      by_cases hstar : Value.isDistanceText s = true
      · obtain rfl : s = text := by simpa [EntityPart.ofValue, EntityPart.binding?, hstar] using h
        exact ⟨rfl, hstar⟩
      · simp [EntityPart.ofValue, EntityPart.binding?, hstar] at h
  | .list (v :: rest) =>
      rw [EntityPart.ofValue_list_cons] at h
      cases hnames : Value.labelNamesOf? (v :: rest) <;> simp [hnames, EntityPart.binding?] at h

/-- The distance of an entity is among the distances of its group. -/
theorem mem_distances
    (h : Entity.ofGroup group = .ok x) {text : String} (hdistance : x.distance? = some text) :
    text ∈ distances group := by
  rcases Entity.ofItems_spliced_of_ofGroup h with hfree | hitems
  · simp [Entity.distance?, hfree] at hdistance
  · obtain ⟨b?, names?, hbindings, -, rfl⟩ := Entity.ofItems_eq_ok hitems
    have hmem : .distance text ∈ b?.toList := by
      cases b? with
      | none =>
          cases hdistance
      | some b =>
          cases b with
          | free | props =>
              cases hdistance
          | distance found =>
              obtain rfl := Option.some.inj hdistance
              simp
    rw [← hbindings] at hmem
    obtain ⟨v, hv, hbinding⟩ := List.mem_filterMap.1 hmem
    obtain ⟨rfl, hstar⟩ := eq_str_of_binding?_distance hbinding
    exact List.mem_filter.2 ⟨List.mem_filterMap.2 ⟨_, hv, rfl⟩, hstar⟩

theorem isPlain_distanceText
    (hraw : ∀ text ∈ distances group, ∀ c ∈ text.toList, IsPlain c)
    (h : Entity.ofGroup group = .ok x) :
    ∀ c ∈ (Pattern.distanceText x).toList, IsPlain c := by
  intro c hc
  unfold Pattern.distanceText at hc
  split at hc
  · rename_i text htext
    rw [Value.distanceText] at hc
    split at hc
    · exact hraw text (mem_distances h htext) c (Text.mem_of_mem_trim hc)
    · simp at hc
  · simp at hc

end Distances

/-- The texts of a call that its statement takes over as they are: distances and clauses. -/
def rawTexts (renderer : Renderer) (args : List Value) : List String :=
  args.flatMap distances ++ if renderer = .findGraph then args.filterMap Value.text? else []

section Calls

open Render ComposeError Outcome

variable {renderer : Renderer} {args : List Value} {s : Statement}

/-- Does the call ask for a path? -/
def IsPathRead (renderer : Renderer) (args : List Value) : Prop :=
  renderer = .findGraph ∧ ∃ v ∈ args, ClauseRole.ofValue? v = some .path

theorem isPlain_of_mem
    {group : Value} (hgroup : group ∈ args ∨ group = .null)
    (hraw : ∀ text ∈ rawTexts renderer args, ∀ c ∈ text.toList, IsPlain c) :
    ∀ text ∈ distances group, ∀ c ∈ text.toList, IsPlain c := by
  intro text htext
  rcases hgroup with hgroup | rfl
  · exact hraw text (List.mem_append_left _ (List.mem_flatMap.2 ⟨group, hgroup, htext⟩))
  · simp [distances, Value.spliced, Value.text?] at htext

theorem binds_saveNode (h : saveNode args = .ok (some s)) : ∃ facets, Binds s facets := by
  rw [saveNode_eq, map_eq_ok_iff] at h
  obtain ⟨x, -, hx⟩ := h
  unfold savedNode? at hx
  split at hx
  · split at hx
    · rename_i hlegal
      obtain rfl := Option.some.inj hx
      exact ⟨_, binds_savedNode hlegal⟩
    · cases hx
  · cases hx

theorem binds_findNode (h : findNode args = .ok s) : ∃ facets, Binds s facets := by
  rw [findNode_eq, map_eq_ok_iff] at h
  obtain ⟨x, hx, rfl⟩ := h
  rw [liftShape_eq_ok_iff, Pattern.nodeOfGroup_eq_ok_iff] at hx
  exact ⟨_, binds_foundNode hx.2⟩

theorem binds_saveEdge (h : saveEdge args = .ok (some s)) : ∃ facets, Binds s facets := by
  obtain ⟨edge, source, target, -, hgroups⟩ := exists_groups_of_saveEdge h
  obtain ⟨labels, fields, a, b, -, -, hlegal, ha, hb, rfl⟩ :=
    saveEdgeOfGroups_eq_some_iff.1 hgroups
  exact ⟨_, binds_savedEdge (Pattern.nodeOfGroup_eq_ok_iff.1 ha).2
    (Pattern.nodeOfGroup_eq_ok_iff.1 hb).2 hlegal⟩

theorem binds_findEdge
    (hraw : ∀ text ∈ rawTexts .findEdge args, ∀ c ∈ text.toList, IsPlain c)
    (h : findEdge args = .ok s) :
    ∃ facets, Binds s facets := by
  obtain ⟨-, a, e, b, ha, he, hb, rfl⟩ := findEdge_eq_ok_iff.1 h
  have hedge := Value.getD_null args 0
  exact ⟨_, binds_foundEdge (Pattern.nodeOfGroup_eq_ok_iff.1 ha).2
    (isPlain_distanceText (isPlain_of_mem hedge hraw) he) (Pattern.nodeOfGroup_eq_ok_iff.1 hb).2⟩

theorem getD_groupsOf_mem (args : List Value) (n : Nat) :
    (groupsOf args).getD n .null ∈ args ∨ (groupsOf args).getD n .null = .null :=
  (Value.getD_null (groupsOf args) n).imp_left List.mem_of_mem_filter

theorem labels_pathEdge (e : Entity) : (pathEdge e).labels = e.labels := by
  obtain ⟨binding, labels⟩ := e
  cases binding <;> rfl

theorem distanceText_pathEdge (e : Entity) :
    Pattern.distanceText (pathEdge e) = Pattern.distanceText e := by
  obtain ⟨binding, labels⟩ := e
  cases binding <;> rfl

theorem boundProps?_pathEdge (e : Entity) : (pathEdge e).boundProps? = none := by
  obtain ⟨binding, labels⟩ := e
  cases binding <;> rfl

/-- A generic read asks for a path exactly when it has a path clause. -/
theorem isPathRead_iff
    {clauses : ClauseSet} (h : ClauseSet.ofFragments (clausesOf args) = .ok clauses) :
    IsPathRead .findGraph args ↔ clauses.path.isSome = true := by
  rw [ClauseSet.path_isSome_iff h]
  constructor
  · rintro ⟨-, v, hv, hrole⟩
    refine ⟨v, ?_, hrole⟩
    cases v with
    | str text =>
        exact List.mem_filter.2 ⟨hv, rfl⟩
    | null | bool | int | float | list | map =>
        cases hrole
  · rintro ⟨v, hv, hrole⟩
    exact ⟨rfl, v, List.mem_of_mem_filter hv, hrole⟩

/-- A generic read binds its edge unless it asks for a path. -/
theorem binds_findGraph
    (hraw : ∀ text ∈ rawTexts .findGraph args, ∀ c ∈ text.toList, IsPlain c)
    (h : findGraph args = .ok s) :
    ∃ facets, Binds s facets ∧ (IsPathRead .findGraph args → Facet.edge ∉ facets) := by
  obtain ⟨-, -, clauses, hclauses, h⟩ := findGraph_eq_ok_iff.1 h
  have hclause {role : ClauseRole} {text : String} (htext : clauses.get? role = some text) :
      ∀ c ∈ text.toList, IsPlain c := by
    intro c hc
    obtain ⟨found, hfound, hc⟩ := ClauseSet.mem_fragment_of_mem_clause hclauses htext hc
    have hmem : found ∈ rawTexts .findGraph args :=
      List.mem_append_right _ (List.mem_filterMap.2 ⟨_, List.mem_of_mem_filter hfound, rfl⟩)
    exact hraw found hmem c hc
  have htail : ∀ c ∈ clauses.tail.toList, IsPlain c := by
    intro c hc
    rcases ClauseSet.mem_tail hc with rfl | ⟨role, text, htext, hc⟩
    · simp [IsPlain, Name.tick]
    · exact hclause htext c hc
  have hpath := (isPathRead_iff hclauses).1
  obtain ⟨a, ha, ⟨-, hnone, rfl⟩ | ⟨-, e, b, he, hb, rfl⟩⟩ := findGraphOfGroups_eq_ok_iff.1 h
  · refine ⟨_, binds_foundFirst (Pattern.nodeOfGroup_eq_ok_iff.1 ha).2 htail, fun hread => ?_⟩
    have hsome := hpath hread
    rw [hnone] at hsome
    cases hsome
  · have hdistance := isPlain_distanceText (isPlain_of_mem (getD_groupsOf_mem args 1) hraw) he
    have hkeyword : ∀ keyword ∈ clauses.path, ∀ c ∈ keyword.toList, IsPlain c :=
      fun keyword hmem => @hclause .path keyword hmem
    have hedge : ∀ c ∈ (Pattern.distanceText
        (if clauses.path.isSome then pathEdge e else e)).toList, IsPlain c := by
      split
      · rwa [distanceText_pathEdge]
      · exact hdistance
    refine ⟨_, binds_foundGraph (Pattern.nodeOfGroup_eq_ok_iff.1 ha).2 hedge
      (Pattern.nodeOfGroup_eq_ok_iff.1 hb).2 hkeyword htail, fun hread => ?_⟩
    rw [hpath hread]
    simp [mem_mentioned_iff, boundProps?_pathEdge]

theorem exists_binds
    (hraw : ∀ text ∈ rawTexts renderer args, ∀ c ∈ text.toList, IsPlain c)
    (h : renderer.render args = .ok (some s)) :
    ∃ facets, Binds s facets ∧ (IsPathRead renderer args → Facet.edge ∉ facets) := by
  cases renderer with
  | saveNode =>
      obtain ⟨facets, hbinds⟩ := binds_saveNode h
      exact ⟨facets, hbinds, fun hread => nomatch hread.1⟩
  | saveEdge =>
      obtain ⟨facets, hbinds⟩ := binds_saveEdge h
      exact ⟨facets, hbinds, fun hread => nomatch hread.1⟩
  | findNode =>
      obtain ⟨found, hfound, hsome⟩ := map_eq_ok_iff.1 h
      obtain rfl := Option.some.inj hsome
      obtain ⟨facets, hbinds⟩ := binds_findNode hfound
      exact ⟨facets, hbinds, fun hread => nomatch hread.1⟩
  | findEdge =>
      obtain ⟨found, hfound, hsome⟩ := map_eq_ok_iff.1 h
      obtain rfl := Option.some.inj hsome
      obtain ⟨facets, hbinds⟩ := binds_findEdge hraw hfound
      exact ⟨facets, hbinds, fun hread => nomatch hread.1⟩
  | findGraph =>
      obtain ⟨found, hfound, hsome⟩ := map_eq_ok_iff.1 h
      obtain rfl := Option.some.inj hsome
      exact binds_findGraph hraw hfound

/--
The placeholders outside of the quoted names of a statement are those of its
parameters.  Each parameter is a map that is not empty, and a path has none for
its edge.
-/
theorem occurring_eq_params
    (hraw : ∀ text ∈ rawTexts renderer args, ∀ c ∈ text.toList, IsPlain c)
    (h : renderer.render args = .ok (some s)) :
    (∀ key, key ∈ PropertyMap.keys s.params ↔
      ∃ facet, occurs facet s.query = true ∧ facet.paramName = key) ∧
    (∀ key v, (key, v) ∈ s.params → ∃ fields, fields ≠ [] ∧ v = .map fields) ∧
    (IsPathRead renderer args →
      occurs .edge s.query = false ∧ Facet.edge.paramName ∉ PropertyMap.keys s.params) := by
  obtain ⟨facets, hbinds, hedge⟩ := exists_binds hraw h
  refine ⟨fun key => ?_, hbinds.maps, fun hread => ⟨?_, ?_⟩⟩
  · simp only [hbinds.keys, hbinds.occurs_iff]
  · rw [← Bool.not_eq_true, hbinds.occurs_iff]
    exact hedge hread
  · rw [hbinds.keys]
    rintro ⟨facet, hfacet, hname⟩
    rw [Pattern.paramName_injective hname] at hfacet
    exact hedge hread hfacet

/-- A read of a path whose first node has a placeholder in the name of a key. -/
def pathCall : List Value :=
  [.list [.str "al\x60pha", .map [("k\x60\x7bpropE\x7d", .null)]],
    .list [.map [("w", .null)], .str "next"], .str "shortestPath", .str "RETURN p"]

/-- The name of the key is skipped, and the properties of the edge are left out. -/
theorem pathCall_binds_source :
    ∃ s, Renderer.findGraph.render pathCall = .ok (some s) ∧
      PropertyMap.keys s.params = ["propA"] ∧
      occurs .source s.query = true ∧ occurs .edge s.query = false := by
  have htexts : rawTexts .findGraph pathCall = ["shortestPath", "RETURN p"] := by
    decide
  have hraw : ∀ text ∈ rawTexts .findGraph pathCall, ∀ c ∈ text.toList, IsPlain c := by
    rw [htexts]
    simp [IsPlain, Name.tick]
  have hrender : Renderer.findGraph.render pathCall =
      .ok (some
        { query := "MATCH (a:\x60al\x60\x60pha\x60 \x7b\x60k\x60\x60\x7bpropE\x7d\x60: " ++
            "\x7bpropA\x7d.\x60k\x60\x60\x7bpropE\x7d\x60\x7d), (b), " ++
            "p=shortestPath((a)-[e:next]->(b)) RETURN p"
          params := [("propA", .map [("k\x60\x7bpropE\x7d", .null)])] }) := by
    rfl
  obtain ⟨hkeys, -, hpath⟩ := occurring_eq_params hraw hrender
  obtain ⟨facet, hoccurs, hname⟩ := (hkeys "propA").1 (by simp [PropertyMap.keys])
  obtain rfl : facet = .source := Pattern.paramName_injective hname
  have hread : IsPathRead .findGraph pathCall :=
    ⟨rfl, .str "shortestPath", by simp [pathCall], by decide +kernel⟩
  exact ⟨_, hrender, rfl, hoccurs, (hpath hread).1⟩

end Calls

end Placeholder
end CypherBatch
