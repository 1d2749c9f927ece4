import CypherBatch.Proofs.Batches
import CypherBatch.Proofs.Entities
import CypherBatch.Proofs.PatternTexts
import CypherBatch.Proofs.Renderers
import CypherBatch.Proofs.TokenPlaces

/-!
# One statement for each type

A creation that names several types is to be written once for each of them, just
as if that type alone had been given.  The types are read off the text of the
statement, so this depends on what can be read there.

For two or more types, the copies are the statements of the single types exactly
when the first token of the text stands in the bracket of the edge and every type is
readable.  One type is left alone exactly when one label is read, wherever it is
read.
-/

namespace CypherBatch
namespace EdgeType

open Outcome Render

/-- The types as they stand in a text. -/
def written (types : List String) : List (List Char) :=
  types.map fun type => Name.quotedChars type.toList

section WrittenTypes

@[simp] theorem written_nil : written [] = [] := by
  rfl

@[simp] theorem written_cons (type : String) (types : List String) :
    written (type :: types) = Name.quotedChars type.toList :: written types := by
  rfl

@[simp] theorem length_written (types : List String) :
    (written types).length = types.length := by
  simp [written]

/-- The text of labels has those that are not empty, each behind a colon. -/
theorem toList_labelText (labels : List String) :
    (Name.labelText labels).toList = labelRun (written (labels.filter (· ≠ ""))) := by
  simp only [Name.labelText, String.toList_join, labelRun, written, List.flatMap_map]
  simp [Name.quote]

/-- A name that holds a backtick is written between backticks. -/
theorem quoted_of_mem_written
    {types : List String} {label : List Char}
    (h : label ∈ written types) (htick : Name.tick ∈ label) :
    ∃ body, label = Name.tick :: (body ++ [Name.tick]) := by
  obtain ⟨type, -, rfl⟩ := List.mem_map.1 h
  cases hplain : Name.isPlain type.toList with
  | true =>
      rw [Name.quotedChars_of_isPlain hplain] at htick
      exact absurd htick (Name.not_mem_of_isPlain hplain isWord_tick (by decide))
  | false =>
      exact ⟨_, Name.quotedChars_of_not_isPlain hplain⟩

/-- A readable type is read back as it is written. -/
theorem readLabel_quotedChars
    {type : String} (h : Readable type) (hne : type ≠ "")
    {rest : List Char} (hrest : ∀ c ∈ rest.head?, Text.isWord c = false) :
    readLabel (Name.quotedChars type.toList ++ rest) =
      some (Name.quotedChars type.toList, rest) := by
  cases hplain : Name.isPlain type.toList with
  | true =>
      have hword : ∀ c ∈ type.toList, Text.isWord c = true := by
        intro c hc
        rcases Name.isWord_or_eq_of_isPlain hplain c hc with hword | rfl
        · exact hword
        · exact absurd hc (h.2 hplain)
      rw [Name.quotedChars_of_isPlain hplain]
      exact readLabel_word (by simpa using hne) hword hrest
  | false =>
      rw [Name.quotedChars_of_not_isPlain hplain, Name.flatMap_doubled_of_not_mem h.1]
      have hread := readLabel_ticked (by simpa using hne) h.1 rest
      simpa using hread

/-- Only readable types are written as a label. -/
theorem readable_of_isLabel
    {type : String} (h : IsLabel (Name.quotedChars type.toList)) :
    Readable type := by
  cases hplain : Name.isPlain type.toList with
  | true =>
      have htick : Name.tick ∉ type.toList :=
        Name.not_mem_of_isPlain hplain isWord_tick (by decide)
      rw [Name.quotedChars_of_isPlain hplain] at h
      refine ⟨htick, fun _ hline => ?_⟩
      rcases h with ⟨name, -, -, hname⟩ | ⟨-, hword⟩
      · exact htick (by simp [hname])
      · exact absurd (hword _ hline) (by decide)
  | false =>
      rw [Name.quotedChars_of_not_isPlain hplain] at h
      refine ⟨?_, by simp [hplain]⟩
      rcases h with ⟨name, -, htick, hname⟩ | ⟨-, hword⟩
      · have hbody : type.toList.flatMap Name.doubled = name := by simpa using hname
        rwa [← hbody, Name.mem_flatMap_doubled_iff] at htick
      · have htick := hword Name.tick (by simp)
        simp [isWord_tick] at htick

/-- Readable types are read back one behind another. -/
theorem readLabels_labelRun
    {types : List String} (h : ∀ type ∈ types, Readable type ∧ type ≠ "")
    {rest : List Char} (hrest : ∀ c ∈ rest.head?, Text.isWord c = false ∧ c ≠ ':') :
    readLabels (labelRun (written types) ++ rest) = (written types, rest) := by
  induction types with
  | nil =>
      refine readLabels_of_ne_colon ?_
      intro hhead
      exact (hrest ':' (by simp [← hhead])).2 rfl
  | cons type types ih =>
      obtain ⟨hreadable, hne⟩ := h type (by simp)
      have hrec := ih fun other hother => h other (by simp [hother])
      have hnext : ∀ c ∈ (labelRun (written types) ++ rest).head?, Text.isWord c = false := by
        intro c hc
        cases types with
        | nil =>
            exact (hrest c (by simpa using hc)).1
        | cons other types =>
            simp only [written_cons, labelRun_cons, List.cons_append, List.head?_cons,
              Option.mem_def, Option.some.injEq] at hc
            subst hc
            rfl
      have hread := readLabel_quotedChars hreadable hne hnext
      simp only [written_cons, labelRun_cons, List.cons_append, List.append_assoc]
      rw [readLabels_colon_of_some hread, hrec]

end WrittenTypes

section Tails

variable {types : List String} {tail : List Char}

theorem readLabels_written
    (htypes : ∀ type ∈ types, Readable type ∧ type ≠ "") (htail : IsTail tail) :
    readLabels (labelRun (written types) ++ tail) = (written types, tail) := by
  refine readLabels_labelRun htypes fun c hc => ?_
  rw [htail.head] at hc
  obtain rfl : ' ' = c := by simpa using hc
  decide

/-- Readable types are found behind a lead without brackets. -/
theorem find?_bracketed
    {lead : List Char} (hne : types ≠ [])
    (htypes : ∀ type ∈ types, Readable type ∧ type ≠ "")
    (hlead : '[' ∉ lead) (htail : IsTail tail) :
    Token.find? (bracketed lead (written types) tail) = some ⟨lead, written types, tail⟩ := by
  have hhead : Token.atHead? ('[' :: 'e' :: (labelRun (written types) ++ tail)) =
      some ⟨[], written types, tail⟩ := by
    rw [Token.atHead?, readLabels_written htypes htail]
    cases types with
    | nil =>
        exact absurd rfl hne
    | cons type types =>
        rfl
  exact Token.find?_append_of_not_mem hlead hhead

end Tails

section Statements

variable {a b : Entity} {fields : PropertyMap} {types : List String}

/-- The text of a statement that saves an edge, up to the bracket of the edge. -/
def edgeLead (a b : Entity) : String :=
  "MATCH " ++ Pattern.node .source a ++ ", " ++ Pattern.node .target b ++ " MERGE (a)-"

/-- The text of a statement that saves an edge, behind the types of the edge. -/
def edgeTail : String :=
  " \x7bhash: " ++ Pattern.placeholder Facet.edge.paramName ++ ".hash\x7d" ++ "]->(b) " ++
    Pattern.upsert .edge ++ " RETURN e"

/-- The tail in its pieces. -/
theorem toList_edgeTail :
    edgeTail.toList =
      " \x7bhash: \x7bpropE\x7d.hash\x7d]->(b) ON CREATE SET e = \x7bpropE\x7d, ".toList ++
        ("e.created_by = \x7bpropE\x7d.updated_by, ".toList ++
          ("e.created_when = \x7bpropE\x7d.updated_when".toList ++
            " ON MATCH SET e += \x7bpropE\x7d RETURN e".toList)) := by
  unfold edgeTail Pattern.upsert Pattern.placeholder
  simp only [Facet.paramName, Facet.varName, Pattern.provenance, List.map_cons, List.map_nil,
    String.toList_append, String.toList_intercalate]
  simp

theorem isTail_edgeTail : IsTail edgeTail.toList where
  head := by
    rw [toList_edgeTail]
    simp
  noTick := by
    rw [toList_edgeTail]
    simp [Name.tick]
  noBracket := by
    rw [toList_edgeTail]
    simp

/-- The types of an edge stand in its bracket, between the lead and the tail. -/
theorem query_savedEdge :
    (savedEdge types fields a b).query =
      edgeLead a b ++ "[e" ++ Name.labelText types ++ edgeTail := by
  apply String.toList_inj.1
  unfold savedEdge Pattern.mergeBody edgeLead edgeTail
  simp only [String.toList_append, Facet.varName, List.append_assoc]
  simp

/-- A statement that saves an edge is a lead, the bracket of the edge and a tail. -/
theorem toList_query_savedEdge (hne : ∀ type ∈ types, type ≠ "") :
    (savedEdge types fields a b).query.toList =
      bracketed (edgeLead a b).toList (written types) edgeTail.toList := by
  have hfilter : types.filter (· ≠ "") = types := by simpa using hne
  rw [query_savedEdge]
  simp only [String.toList_append, toList_labelText, hfilter, bracketed, List.append_assoc]
  simp

/-- A property map and a list of types are read as such if no type is a distance. -/
theorem ofGroup_props_types {e : Entity} :
    Entity.ofGroup (.list [.map fields, .list (types.map .str)]) = .ok e ↔
      (∀ type ∈ types, Value.isDistanceText type = false) ∧ e = ⟨.props fields, types⟩ := by
  have hrole : EntityPart.ofValue (.map fields) = .binding (.props fields) := rfl
  rw [Entity.ofGroup_list_of_labelNamesOf?_eq_none
    (by simp [Value.labelNamesOf?, Value.labelName?])]
  simp only [Entity.ofItems, List.foldlM_cons, List.foldlM_nil, EntityDraft.add, hrole,
    EntityDraft.empty, bind_eq, ok_bind]
  cases types with
  | nil =>
      constructor
      · intro h
        exact ⟨by simp, (Except.ok.inj h).symm⟩
      · rintro ⟨-, rfl⟩
        rfl
  | cons type types =>
      rw [List.map_cons, EntityPart.ofValue_list_cons, ← List.map_cons]
      constructor
      · intro h
        cases hnames : Value.labelNamesOf? ((type :: types).map .str) with
        | none =>
            simp only [hnames, error_bind] at h
            cases h
        | some names =>
            simp only [hnames, ok_bind] at h
            obtain ⟨rfl, hstars⟩ := Value.labelNamesOf?_map_str.1 hnames
            exact ⟨hstars, (Except.ok.inj h).symm⟩
      · rintro ⟨hstars, rfl⟩
        rw [Value.labelNamesOf?_map_str.2 ⟨rfl, hstars⟩]
        rfl

/-- A property map and one type. -/
theorem ofGroup_props_type {type : String} (h : Value.isDistanceText type = false) :
    Entity.ofGroup (.list [.map fields, .str type]) = .ok ⟨.props fields, [type]⟩ := by
  simp [Entity.ofGroup, Value.labelNamesOf?, Value.labelName?, Entity.ofItems,
    List.foldlM_cons, EntityDraft.add, EntityPart.ofValue, h, EntityDraft.empty, EntityDraft.entity]

/-- An edge is saved with each type alone. -/
theorem mapM_saveEdge_type
    {source target : Value}
    (hstars : ∀ type ∈ types, Value.isDistanceText type = false)
    (hlegal : Value.isLegal (.map fields) = true)
    (ha : Pattern.nodeOfGroup .source source = .ok a)
    (hb : Pattern.nodeOfGroup .target target = .ok b) :
    types.mapM (fun type => saveEdge [.list [.map fields, .str type], source, target]) =
      .ok ((types.map fun type => savedEdge [type] fields a b).map some) := by
  rw [List.map_map]
  refine mapM_eq_ok_map fun type htype => saveEdgeOfGroups_eq_some_iff.2 ?_
  exact ⟨[type], fields, a, b, ofGroup_props_type (hstars type htype), by simp, hlegal,
    ha, hb, rfl⟩

/-- The statement of a single type is a copy of the statement of all. -/
theorem savedEdge_singleton {type : String} (hne : type ≠ "") :
    savedEdge [type] fields a b =
      { savedEdge types fields a b with
        query := String.ofList (bracketed (edgeLead a b).toList
          [Name.quotedChars type.toList] edgeTail.toList) } := by
  have hquery := @toList_query_savedEdge a b fields [type] (by simpa using hne)
  rw [written_cons, written_nil] at hquery
  rw [← hquery, String.ofList_toList]
  rfl

end Statements

section Brackets

theorem bracket_not_mem_edgeLead
    {a b : Entity} (ha : a.distance? = none) (hb : b.distance? = none)
    (hlabels : ∀ label ∈ a.labels ++ b.labels, '[' ∉ label.toList)
    (hkeys : ∀ key ∈ Pattern.boundKeys a ++ Pattern.boundKeys b, '[' ∉ key.toList) :
    '[' ∉ (edgeLead a b).toList := by
  simp only [List.mem_append] at hlabels hkeys
  have hsource := @Pattern.bracket_not_mem_node .source a ha
    (fun label h => hlabels label (Or.inl h)) (fun key h => hkeys key (Or.inl h))
  have htarget := @Pattern.bracket_not_mem_node .target b hb
    (fun label h => hlabels label (Or.inr h)) (fun key h => hkeys key (Or.inr h))
  simp [edgeLead, String.toList_append, hsource, htarget]

/-- Readable types are found in the bracket of the edge if no bracket stands in front of it. -/
theorem find?_savedEdge
    {types : List String} {fields : PropertyMap} {a b : Entity}
    (hne : types ≠ []) (htypes : ∀ type ∈ types, Readable type ∧ type ≠ "")
    (hlead : '[' ∉ (edgeLead a b).toList) :
    Token.find? (savedEdge types fields a b).query.toList =
      some ⟨(edgeLead a b).toList, written types, edgeTail.toList⟩ := by
  rw [toList_query_savedEdge fun type htype => (htypes type htype).2]
  exact find?_bracketed hne htypes hlead isTail_edgeTail

end Brackets

section Copies

variable {s : Statement} {token : Token}

theorem expand_strict_of_find?
    (h : Token.find? s.query.toList = some token) :
    expand .strict s = .ok (token.labels.map fun label =>
      { s with query := String.ofList (bracketed token.before [label] token.after) }) := by
  simp only [expand, h, replaced_colon]

/-- The copies for the types that are found are given ones exactly when their texts are. -/
theorem expand_strict_eq_ok_iff
    (h : Token.find? s.query.toList = some token)
    {texts : List (List Char)} :
    expand .strict s = .ok (texts.map fun text => { s with query := String.ofList text }) ↔
      (token.labels.map fun label => bracketed token.before [label] token.after) = texts := by
  rw [expand_strict_of_find? h, Except.ok.injEq]
  constructor
  · intro hcopies
    have htexts := congrArg (List.map fun s => s.query.toList) hcopies
    simpa [Function.comp_def] using htexts
  · rintro rfl
    simp

/--
The copies of a text are those of its types exactly when there is one type and one
label is read, or the labels are read in the bracket of the edge and every type is
readable.
-/
theorem copies_eq_iff
    {before after lead tail : List Char} {labels : List (List Char)} {types : List String}
    (hne : types ≠ []) (htypes : ∀ type ∈ types, type ≠ "")
    (htext : bracketed before labels after = bracketed lead (written types) tail)
    (hread : readLabels (labelRun labels ++ after) = (labels, after))
    (htail : IsTail tail) :
    ((labels.map fun label => bracketed before [label] after) =
        (written types).map fun type => bracketed lead [type] tail) ↔
      (types.length = 1 ∧ labels.length = 1) ∨
        (before = lead ∧ ∀ type ∈ types, Readable type) := by
  constructor
  · intro hcopies
    have hcount : labels.length = types.length := by
      simpa using congrArg List.length hcopies
    by_cases hone : types.length = 1
    · exact Or.inl ⟨hone, by omega⟩
    · have hpos : 0 < types.length := List.length_pos_of_ne_nil hne
      obtain ⟨rfl, rfl⟩ :=
        eq_of_copies (by rw [length_written]; omega) htext hcopies hread htail
          fun type htype => quoted_of_mem_written htype
      refine Or.inr ⟨rfl, fun type htype => readable_of_isLabel ?_⟩
      have hlabels := (readLabels_spec (labelRun (written types) ++ after)).2.2
      rw [hread] at hlabels
      exact hlabels _ (List.mem_map_of_mem htype)
  · rintro (⟨hone, hlabel⟩ | ⟨rfl, hreadable⟩)
    · obtain ⟨type, rfl⟩ := List.length_eq_one_iff.1 hone
      obtain ⟨label, rfl⟩ := List.length_eq_one_iff.1 hlabel
      simpa using htext
    · have hback := readLabels_written
        (fun type htype => ⟨hreadable type htype, htypes type htype⟩) htail
      have hsame : labelRun labels ++ after = labelRun (written types) ++ tail := by
        simpa [bracketed] using htext
      rw [hsame, hback, Prod.mk.injEq] at hread
      rw [hread.1, hread.2]

end Copies

/--
The copies of a statement that saves an edge with several types are the statements
that save it with each type alone, exactly when its first token stands in the bracket
of the edge and every type is readable; for a single type, when one label is read.
-/
theorem copies_iff
    {fields : PropertyMap} {types : List String} {source target : Value} {s : Statement}
    (htypes : ∀ type ∈ types, type ≠ "")
    (hsaved : saveEdge [.list [.map fields, .list (types.map .str)], source, target] =
      .ok (some s)) :
    ∃ a b, Pattern.nodeOfGroup .source source = .ok a ∧
      Pattern.nodeOfGroup .target target = .ok b ∧
      ((expand .strict s).map (List.map some) =
          types.mapM (fun type => saveEdge [.list [.map fields, .str type], source, target]) ↔
        ∃ token, Token.find? s.query.toList = some token ∧
          ((types.length = 1 ∧ token.labels.length = 1) ∨
            (token.before = (edgeLead a b).toList ∧ ∀ type ∈ types, Readable type))) := by
  obtain ⟨labels, fields', a, b, he, hne, hlegal, ha, hb, rfl⟩ :=
    saveEdgeOfGroups_eq_some_iff.1 hsaved
  obtain ⟨hstars, heq⟩ := ofGroup_props_types.1 he
  obtain ⟨rfl, rfl⟩ : fields' = fields ∧ labels = types := by simpa using heq
  refine ⟨a, b, ha, hb, ?_⟩
  have htexts : (labels.map fun type => savedEdge [type] fields' a b) =
      ((written labels).map fun type =>
        bracketed (edgeLead a b).toList [type] edgeTail.toList).map fun text =>
          { savedEdge labels fields' a b with query := String.ofList text } := by
    simp only [written, List.map_map]
    exact List.map_congr_left fun type htype => savedEdge_singleton (htypes type htype)
  rw [mapM_saveEdge_type hstars hlegal ha hb, map_map_some_eq_ok_iff, htexts]
  cases hfind : Token.find? (savedEdge labels fields' a b).query.toList with
  | none =>
      simp [expand, hfind]
  | some token =>
      obtain ⟨-, htext, hread⟩ := Token.find?_spec hfind
      rw [toList_query_savedEdge htypes] at htext
      rw [expand_strict_eq_ok_iff hfind,
        copies_eq_iff hne htypes htext.symm hread isTail_edgeTail]
      simp

/-- The least property map that is legal. -/
def requiredOnly : PropertyMap :=
  requiredFields.map fun field => (field, .str "x")

/-- Of two types, the first with a backtick in it, one copy is made. -/
theorem ticked_type_is_lost :
    saveEdge [.list [.map requiredOnly, .list [.str "a\x60b", .str "c"]],
        .list [.str "alpha"], .list [.str "beta"]] =
      .ok (some (savedEdge ["a\x60b", "c"] requiredOnly
        ⟨.free, ["alpha"]⟩ ⟨.free, ["beta"]⟩)) ∧
    (expand .strict (savedEdge ["a\x60b", "c"] requiredOnly
        ⟨.free, ["alpha"]⟩ ⟨.free, ["beta"]⟩)).map (List.map some) ≠
      ["a\x60b", "c"].mapM fun type =>
        saveEdge [.list [.map requiredOnly, .str type],
          .list [.str "alpha"], .list [.str "beta"]] := by
  have hlegal : Value.isLegal (.map requiredOnly) = true := by
    decide +kernel
  have hlead : '[' ∉ (edgeLead ⟨.free, ["alpha"]⟩ ⟨.free, ["beta"]⟩).toList :=
    bracket_not_mem_edgeLead rfl rfl (by decide) (by decide)
  have hread (tail : List Char) :
      readLabels (labelRun (written ["a\x60b", "c"]) ++ tail) =
        ([['\x60', 'a', '\x60']], '\x60' :: 'b' :: '\x60' :: ':' :: 'c' :: tail) := by
    have hwritten : written ["a\x60b", "c"] =
        [['\x60', 'a', '\x60', '\x60', 'b', '\x60'], ['c']] := by
      decide +kernel
    rw [hwritten]
    simp [readLabels, readLabel, readTicked, Name.tick]
  have hhead (tail : List Char) :
      Token.atHead? ('[' :: 'e' :: (labelRun (written ["a\x60b", "c"]) ++ tail)) =
        some ⟨[], [['\x60', 'a', '\x60']], '\x60' :: 'b' :: '\x60' :: ':' :: 'c' :: tail⟩ := by
    rw [Token.atHead?, hread]
  have hstars : ∀ type ∈ ["a\x60b", "c"], Value.isDistanceText type = false := by
    decide
  have hsaved : saveEdge [.list [.map requiredOnly, .list (["a\x60b", "c"].map .str)],
      .list [.str "alpha"], .list [.str "beta"]] =
      .ok (some (savedEdge ["a\x60b", "c"] requiredOnly
        ⟨.free, ["alpha"]⟩ ⟨.free, ["beta"]⟩)) :=
    saveEdgeOfGroups_eq_some_iff.2
      ⟨_, _, _, _, ofGroup_props_types.2 ⟨hstars, rfl⟩, by decide, hlegal, rfl, rfl, rfl⟩
  have hfind : Token.find? (savedEdge ["a\x60b", "c"] requiredOnly
      ⟨.free, ["alpha"]⟩ ⟨.free, ["beta"]⟩).query.toList =
      some ⟨(edgeLead ⟨.free, ["alpha"]⟩ ⟨.free, ["beta"]⟩).toList, [['\x60', 'a', '\x60']],
        '\x60' :: 'b' :: '\x60' :: ':' :: 'c' :: edgeTail.toList⟩ := by
    rw [toList_query_savedEdge (by decide)]
    exact Token.find?_append_of_not_mem hlead (hhead _)
  refine ⟨hsaved, ?_⟩
  rw [expand_strict_of_find? hfind, mapM_saveEdge_type hstars hlegal rfl rfl]
  intro h
  simp at h

/-- Types with white space and a bracket in them are told apart. -/
theorem spaced_types_are_copied :
    ((expand .strict (savedEdge ["works at", "x[e:"] requiredOnly
        ⟨.free, ["alpha"]⟩ ⟨.free, ["beta"]⟩)).map (List.map some) =
      ["works at", "x[e:"].mapM fun type =>
        saveEdge [.list [.map requiredOnly, .str type],
          .list [.str "alpha"], .list [.str "beta"]]) := by
  have hlegal : Value.isLegal (.map requiredOnly) = true := by
    decide +kernel
  have hsaved : saveEdge [.list [.map requiredOnly, .list (["works at", "x[e:"].map .str)],
      .list [.str "alpha"], .list [.str "beta"]] =
      .ok (some (savedEdge ["works at", "x[e:"] requiredOnly
        ⟨.free, ["alpha"]⟩ ⟨.free, ["beta"]⟩)) :=
    saveEdgeOfGroups_eq_some_iff.2
      ⟨_, _, _, _, ofGroup_props_types.2 ⟨by decide, rfl⟩, by decide, hlegal, rfl, rfl, rfl⟩
  have hreadable : ∀ type ∈ ["works at", "x[e:"], Readable type := by
    simp only [Readable]
    decide
  have hlead : '[' ∉ (edgeLead ⟨.free, ["alpha"]⟩ ⟨.free, ["beta"]⟩).toList :=
    bracket_not_mem_edgeLead rfl rfl (by decide) (by decide)
  obtain ⟨a, b, ha, hb, hiff⟩ := copies_iff (by decide) hsaved
  obtain rfl : (⟨.free, ["alpha"]⟩ : Entity) = a := Except.ok.inj ha
  obtain rfl : (⟨.free, ["beta"]⟩ : Entity) = b := Except.ok.inj hb
  exact hiff.2 ⟨_, find?_savedEdge (by decide)
    (fun type htype => ⟨hreadable type htype, by rintro rfl; simp at htype⟩) hlead,
    Or.inr ⟨rfl, hreadable⟩⟩

end EdgeType
end CypherBatch
