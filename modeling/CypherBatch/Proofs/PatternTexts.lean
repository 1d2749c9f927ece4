import CypherBatch.Pattern
import CypherBatch.Proofs.Names

/-!
# The texts of patterns

A pattern is written from the labels of its entity that are not empty, from the keys
of a property map that is not empty, and from a distance.  Entities that agree in
these are written alike.  The variable comes first, then the labels, each behind a
colon, and then the rest, each part of it behind a space.
-/

namespace CypherBatch

namespace Entity

/-- Do two entities say the same in a pattern? -/
structure Alike (x y : Entity) : Prop where
  labels : x.labels.filter (· ≠ "") = y.labels.filter (· ≠ "")
  props : x.boundProps? = y.boundProps?
  distance : x.distance? = y.distance?

theorem Alike.symm {x y : Entity} (h : x.Alike y) : y.Alike x :=
  ⟨h.labels.symm, h.props.symm, h.distance.symm⟩

end Entity

namespace Name

@[simp] theorem labelText_nil : labelText [] = "" := by
  rfl

theorem labelText_append (labels others : List String) :
    labelText (labels ++ others) = labelText labels ++ labelText others := by
  apply String.toList_inj.1
  simp [labelText, String.toList_join]

theorem labelText_cons {label : String} (h : label ≠ "") (labels : List String) :
    labelText (label :: labels) = ":" ++ quote label ++ labelText labels := by
  apply String.toList_inj.1
  simp [labelText, h, String.toList_join]

theorem labelText_eq_empty_iff (labels : List String) :
    labelText labels = "" ↔ ∀ label ∈ labels, label = "" := by
  constructor
  · intro h label hlabel
    by_contra hne
    have hjoin := congrArg String.toList h
    simp only [labelText, String.toList_join, List.flatMap_map] at hjoin
    have hnil := List.flatMap_eq_nil_iff.1 hjoin label (by simpa using ⟨hlabel, hne⟩)
    simp at hnil
  · intro h
    have hfilter : labels.filter (· ≠ "") = [] := by simpa using h
    rw [labelText, hfilter]
    rfl

/-- The text of labels is empty or begins with a colon. -/
theorem labelText_cases (labels : List String) :
    (labelText labels).toList = [] ∨ ∃ rest, (labelText labels).toList = ':' :: rest := by
  simp only [labelText, String.toList_join, List.flatMap_map]
  cases labels.filter (· ≠ "") with
  | nil =>
      exact Or.inl rfl
  | cons label labels =>
      exact Or.inr ⟨(quote label).toList ++ labels.flatMap fun l => (":" ++ quote l).toList,
        by simp⟩

end Name

namespace Pattern

/-- What a pattern has behind the labels. -/
def rest (facet : Facet) (x : Entity) : List Char :=
  ([literal facet.paramName (boundKeys x), distanceText x].filter (· ≠ "")).flatMap
    fun part => ' ' :: part.toList

theorem toList_intercalate_cons (sep first : String) (parts : List String) :
    (sep.intercalate (first :: parts)).toList =
      first.toList ++ parts.flatMap fun part => sep.toList ++ part.toList := by
  induction parts generalizing first with
  | nil =>
      simp
  | cons part parts ih =>
      rw [String.intercalate_cons_of_ne_nil (by simp), String.toList_append, ih,
        String.toList_append, List.flatMap_cons]
      simp

theorem mem_intercalate
    {sep : String} {parts : List String} {c : Char} (h : c ∈ (sep.intercalate parts).toList) :
    c ∈ sep.toList ∨ ∃ part ∈ parts, c ∈ part.toList := by
  cases parts with
  | nil =>
      simp at h
  | cons first parts =>
      rw [toList_intercalate_cons, List.mem_append, List.mem_flatMap] at h
      rcases h with h | ⟨part, hpart, h⟩
      · exact Or.inr ⟨first, by simp, h⟩
      · rcases List.mem_append.1 h with h | h
        · exact Or.inl h
        · exact Or.inr ⟨part, by simp [hpart], h⟩

theorem toList_body (facet : Facet) (x : Entity) :
    (body facet x).toList =
      facet.varName.toList ++ ((Name.labelText x.labels).toList ++ rest facet x) := by
  rw [body, toList_intercalate_cons, String.toList_append, List.append_assoc]
  rfl

/-- A literal map has its fields between braces, commas between them. -/
theorem toList_literal_cons (param key : String) (keys : List String) :
    (literal param (key :: keys)).toList =
      '\x7b' :: ((literalField param key).toList ++
        (keys.flatMap fun key => ", ".toList ++ (literalField param key).toList) ++ ['\x7d']) := by
  rw [literal, List.isEmpty_cons, if_neg (by simp), String.toList_append, String.toList_append,
    List.map_cons, toList_intercalate_cons, List.flatMap_map]
  simp

section Likeness

variable {facet : Facet} {x y : Entity}

theorem boundKeys_eq (x : Entity) :
    boundKeys x = (x.boundProps?.map PropertyMap.keys).getD [] := by
  obtain ⟨binding, labels⟩ := x
  match binding with
  | .free | .distance _ | .props [] | .props (_ :: _) =>
      rfl

/-- Alike entities have the same pattern. -/
theorem body_congr (h : x.Alike y) :
    body facet x = body facet y := by
  have hlabels : Name.labelText x.labels = Name.labelText y.labels := by
    rw [Name.labelText, h.labels]
    rfl
  simp only [body, boundKeys_eq, distanceText, hlabels, h.props, h.distance]

/-- An entity without properties and distance has nothing behind its labels. -/
theorem rest_eq_nil (hprops : x.boundProps? = none) (hdistance : x.distance? = none) :
    rest facet x = [] := by
  simp [rest, boundKeys_eq, distanceText, hprops, hdistance, literal]

theorem rest_cases (facet : Facet) (x : Entity) :
    rest facet x = [] ∨ ∃ cs, rest facet x = ' ' :: cs := by
  unfold rest
  cases [literal facet.paramName (boundKeys x), distanceText x].filter (· ≠ "") with
  | nil =>
      exact Or.inl rfl
  | cons part parts =>
      exact Or.inr ⟨_, rfl⟩

end Likeness

section Params

/-- The parameters are the property maps that are not empty, under the names of their facets. -/
theorem mem_params_iff {facets : List (Facet × Entity)} {key : String} {v : Value} :
    (key, v) ∈ params facets ↔
      ∃ facet x fields, (facet, x) ∈ facets ∧ x.boundProps? = some fields ∧
        key = facet.paramName ∧ v = .map fields := by
  simp only [params, List.mem_filterMap, Option.map_eq_some_iff, Prod.mk.injEq, Prod.exists]
  constructor
  · rintro ⟨facet, x, hmem, fields, hprops, rfl, rfl⟩
    exact ⟨facet, x, fields, hmem, hprops, rfl, rfl⟩
  · rintro ⟨facet, x, fields, hmem, hprops, rfl, rfl⟩
    exact ⟨facet, x, hmem, fields, hprops, rfl, rfl⟩

theorem paramName_injective : Function.Injective Facet.paramName := by
  intro f g h
  cases f <;> cases g <;> first | rfl | exact absurd h (by decide)

end Params

section Brackets

theorem bracket_not_mem_quote
    {name : String} (h : '[' ∉ name.toList) :
    '[' ∉ (Name.quote name).toList := by
  intro hmem
  rw [Name.quote, String.toList_ofList] at hmem
  rcases Name.mem_quotedChars hmem with hmem | htick
  · exact h hmem
  · exact absurd htick (by decide)

theorem bracket_not_mem_labelText
    {labels : List String} (h : ∀ label ∈ labels, '[' ∉ label.toList) :
    '[' ∉ (Name.labelText labels).toList := by
  intro hmem
  simp only [Name.labelText, String.toList_join, List.mem_flatMap, List.mem_map] at hmem
  obtain ⟨_, ⟨label, hlabel, rfl⟩, hmem⟩ := hmem
  have hquote := bracket_not_mem_quote (h label (List.mem_of_mem_filter hlabel))
  simp [String.toList_append, hquote] at hmem

theorem bracket_not_mem_literal
    {facet : Facet} {keys : List String} (h : ∀ key ∈ keys, '[' ∉ key.toList) :
    '[' ∉ (literal facet.paramName keys).toList := by
  have hparam : '[' ∉ facet.paramName.toList := by
    cases facet <;> simp [Facet.paramName]
  have hfield : ∀ key ∈ keys, '[' ∉ (literalField facet.paramName key).toList := by
    intro key hkey
    simp [literalField, placeholder, bracket_not_mem_quote (h key hkey), hparam]
  cases keys with
  | nil =>
      simp [literal]
  | cons key keys =>
      rw [toList_literal_cons]
      intro hmem
      simp only [List.mem_cons, List.mem_append, List.mem_flatMap] at hmem
      rcases hmem with hbrace | (hmem | ⟨other, hother, hsep | hmem⟩) | hbrace | hnil
      · exact absurd hbrace (by decide)
      · exact hfield key (by simp) hmem
      · simp at hsep
      · exact hfield other (by simp [hother]) hmem
      · exact absurd hbrace (by decide)
      · cases hnil

/-- No bracket stands in the pattern of a node if none stands in its names. -/
theorem bracket_not_mem_node
    {facet : Facet} {x : Entity} (hdistance : x.distance? = none)
    (hlabels : ∀ label ∈ x.labels, '[' ∉ label.toList)
    (hkeys : ∀ key ∈ boundKeys x, '[' ∉ key.toList) :
    '[' ∉ (node facet x).toList := by
  have hvar : '[' ∉ facet.varName.toList := by
    cases facet <;> simp [Facet.varName]
  have hrest : '[' ∉ rest facet x := by
    intro hmem
    obtain ⟨part, hpart, hmem⟩ := List.mem_flatMap.1 hmem
    have hliteral := @bracket_not_mem_literal facet _ hkeys
    simp only [distanceText, hdistance, List.mem_filter, List.mem_cons, List.not_mem_nil,
      or_false] at hpart
    obtain ⟨rfl | rfl, -⟩ := hpart
    · simp [hliteral] at hmem
    · simp at hmem
  simp [node, String.toList_append, toList_body, hvar, bracket_not_mem_labelText hlabels, hrest]

end Brackets

end Pattern

end CypherBatch
