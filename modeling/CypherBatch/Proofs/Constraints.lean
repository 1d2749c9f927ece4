import CypherBatch.Proofs.Insertion
import CypherBatch.Proofs.Placeholders

/-!
# What a generic read keeps of its groups

A group gives labels and a property map.  A read keeps them if each label that is not empty
stands in the text, behind the variable of the group, and a property map that is not empty
is bound under the parameter of the group.

`exists_writes` says what becomes of each group of a read: an entity is read from it and
written.  There are two exceptions.  A path leaves out the property map of its edge.  And
where there is no edge, the group of the second node is not even read, so that a read keeps
what it is given exactly when there is an edge or that group has nothing to be kept.
-/

namespace CypherBatch

namespace Value

/-- The labels among the items of a group. -/
def givenLabels (group : Value) : List String :=
  (group.spliced.flatMap spliced).filterMap labelName?

theorem filterMap_labelName?_map_str
    {names : List String} (h : ∀ name ∈ names, isDistanceText name = false) :
    (names.map str).filterMap labelName? = names := by
  induction names with
  | nil =>
      rfl
  | cons name rest ih =>
      obtain ⟨hname, hrest⟩ := List.forall_mem_cons.1 h
      have hlabel : labelName? (str name) = some name := by
        simp [labelName?, hname]
      rw [List.map_cons, List.filterMap_cons_some hlabel, ih hrest]

end Value

namespace EntityPart

open Value

/-- The labels that an item gives, if it plays a role. -/
theorem labels?_getD {v : Value} (h : ofValue v ≠ .unknown) :
    (ofValue v).labels?.getD [] = v.spliced.filterMap labelName? := by
  match v with
  | .null | .map _ | .list [] =>
      rfl
  | .bool _ | .int _ | .float _ =>
      exact absurd rfl h
  | .str s =>
      by_cases hstar : isDistanceText s = true
      · simp [ofValue, labels?, spliced, labelName?, hstar]
      · simp [ofValue, labels?, spliced, labelName?, hstar]
  | .list (v :: rest) =>
      rw [ofValue_list_cons] at h ⊢
      cases hnames : labelNamesOf? (v :: rest) with
      | none =>
          simp [hnames] at h
      | some names =>
          have hstr := eq_map_str_of_labelNamesOf? hnames
          rw [hstr, labelNamesOf?_map_str] at hnames
          rw [spliced, hstr, filterMap_labelName?_map_str hnames.2]
          rfl

/-- The labels that items give are those of the items one behind another. -/
theorem flatten_labels? {items : List Value} (h : ∀ v ∈ items, ofValue v ≠ .unknown) :
    (items.filterMap fun v => (ofValue v).labels?).flatten =
      (items.flatMap spliced).filterMap labelName? := by
  induction items with
  | nil =>
      rfl
  | cons v rest ih =>
      obtain ⟨hv, hrest⟩ := List.forall_mem_cons.1 h
      rw [List.flatMap_cons, List.filterMap_append, ← ih hrest, ← labels?_getD hv,
        List.filterMap_cons]
      cases (ofValue v).labels? <;> rfl

end EntityPart

namespace Entity

open Value

variable {group : Value} {x : Entity}

/-- An entity has the labels that its group gives. -/
theorem labels_of_ofGroup (h : ofGroup group = .ok x) : x.labels = group.givenLabels := by
  rcases ofGroup_cases group with hitems | ⟨names, rfl, hstars, hnames⟩
  · rw [hitems] at h
    obtain ⟨b?, names?, -, hlabels, rfl⟩ := ofItems_eq_ok h
    rw [givenLabels, ← EntityPart.flatten_labels? (role_of_mem_of_ofItems h), hlabels]
    cases names? <;> simp
  · rw [hnames] at h
    obtain rfl := Except.ok.inj h
    have hsplit : (names.map str).flatMap spliced = names.map str := by
      rw [List.flatMap_map]
      exact List.map_eq_flatMap.symm
    rw [givenLabels, spliced, hsplit, filterMap_labelName?_map_str hstars]

/-- An entity is bound by the property map that its group holds. -/
theorem binding_of_mem_spliced
    (h : ofGroup group = .ok x) {fields : PropertyMap} (hmem : .map fields ∈ group.spliced) :
    x.binding = .props fields :=
  binding_of_role h hmem rfl

theorem boundProps?_of_binding
    {fields : PropertyMap} (h : x.binding = .props fields) (hne : fields ≠ []) :
    x.boundProps? = some fields := by
  obtain ⟨binding, labels⟩ := x
  obtain rfl : binding = .props fields := h
  cases fields with
  | nil =>
      exact absurd rfl hne
  | cons =>
      rfl

end Entity

namespace Pattern

/-- Does the text have the label behind the variable, with only other labels between them? -/
def Shows (text : String) (facet : Facet) (label : String) : Prop :=
  ∃ others, (facet.varName ++ Name.labelText others ++ ":" ++ Name.quote label).toList <:+:
    text.toList

/-- A pattern shows the labels of its entity. -/
theorem shows_of_body_infix
    {facet : Facet} {x : Entity} {text label : String}
    (h : (body facet x).toList <:+: text.toList) (hlabel : label ∈ x.labels) (hne : label ≠ "") :
    Shows text facet label := by
  obtain ⟨before, after, hlabels⟩ := List.append_of_mem hlabel
  refine ⟨before, List.IsInfix.trans ?_ h⟩
  rw [toList_body, hlabels, Name.labelText_append, Name.labelText_cons hne]
  exact ⟨[], (Name.labelText after).toList ++ rest facet x, by simp⟩

section Params

variable {facets : List (Facet × Entity)} {facet : Facet} {x : Entity} {fields : PropertyMap}

theorem keys_params_sublist (facets : List (Facet × Entity)) :
    (PropertyMap.keys (params facets)).Sublist (facets.map fun (facet, _) => facet.paramName) := by
  induction facets with
  | nil =>
      exact .slnil
  | cons named rest ih =>
      obtain ⟨facet, x⟩ := named
      cases hprops : x.boundProps? with
      | none =>
          simpa [params, hprops] using ih.cons _
      | some fields =>
          simpa [params, hprops] using ih.cons_cons facet.paramName

/-- Of different facets, the parameter of each is the property map of its entity. -/
theorem get?_params
    (hfacets : (facets.map Prod.fst).Nodup) (h : (facet, x) ∈ facets)
    (hprops : x.boundProps? = some fields) :
    (params facets).get? facet.paramName = some (.map fields) := by
  have hnames : (facets.map fun (facet, _) => facet.paramName).Nodup := by
    simpa [Function.comp_def] using hfacets.map paramName_injective
  rw [PropertyMap.get?_eq_some_iff (hnames.sublist (keys_params_sublist facets))]
  exact mem_params_iff.2 ⟨facet, x, fields, h, hprops, rfl, rfl⟩

end Params

end Pattern

namespace Render

open Pattern Placeholder

/-- Does the statement have the pattern of the entity, and its property map as the parameter? -/
structure Writes (s : Statement) (facet : Facet) (x : Entity) : Prop where
  text : (body facet x).toList <:+: s.query.toList
  param : ∀ fields, x.boundProps? = some fields →
    s.params.get? facet.paramName = some (.map fields)

section Written

variable {clauses : ClauseSet} {a e b x : Entity} {facet : Facet}

theorem body_infix_node (facet : Facet) (x : Entity) :
    (body facet x).toList <:+: (node facet x).toList :=
  ⟨['('], [')'], by simp [node]⟩

theorem body_infix_edge (e : Entity) : (body .edge e).toList <:+: (edge e).toList :=
  ⟨['['], [']'], by simp [edge]⟩

theorem writes_foundFirst : Writes (foundFirst clauses a) .source a where
  text := (body_infix_node .source a).trans
    ⟨"MATCH ".toList, (" " ++ clauses.tail).toList, by simp [foundFirst]⟩
  param := fun fields hprops => get?_params (by simp) (by simp) hprops

theorem edge_infix_graphBody (path : Option String) (e b : Entity) :
    (edge e).toList <:+: (graphBody path e b).toList := by
  cases path with
  | none =>
      exact ⟨"-".toList, ("->" ++ node .target b).toList, by simp [graphBody]⟩
  | some keyword =>
      exact ⟨(", " ++ node .target b ++ ", p=" ++ keyword ++ "((a)-").toList, "->(b))".toList,
        by simp [graphBody]⟩

theorem target_infix_graphBody (path : Option String) (e b : Entity) :
    (node .target b).toList <:+: (graphBody path e b).toList := by
  cases path with
  | none =>
      exact ⟨("-" ++ edge e ++ "->").toList, [], by simp [graphBody]⟩
  | some keyword =>
      exact ⟨", ".toList, (", p=" ++ keyword ++ "((a)-" ++ edge e ++ "->(b))").toList,
        by simp [graphBody]⟩

theorem graphBody_infix_foundGraph :
    (graphBody clauses.path e b).toList <:+: (foundGraph clauses a e b).query.toList :=
  ⟨("MATCH " ++ node .source a).toList, (" " ++ clauses.tail).toList, by simp [foundGraph]⟩

/-- A read with an edge has the patterns and the property maps of all its entities. -/
theorem writes_foundGraph (h : (facet, x) ∈ [(.source, a), (.edge, e), (.target, b)]) :
    Writes (foundGraph clauses a e b) facet x where
  text := by
    simp only [List.mem_cons, Prod.mk.injEq, List.not_mem_nil, or_false] at h
    rcases h with ⟨rfl, rfl⟩ | ⟨rfl, rfl⟩ | ⟨rfl, rfl⟩
    · exact (body_infix_node .source x).trans
        ⟨"MATCH ".toList, (graphBody clauses.path e b ++ " " ++ clauses.tail).toList,
          by simp [foundGraph]⟩
    · exact ((body_infix_edge x).trans (edge_infix_graphBody clauses.path x b)).trans
        graphBody_infix_foundGraph
    · exact ((body_infix_node .target x).trans (target_infix_graphBody clauses.path e x)).trans
        graphBody_infix_foundGraph
  param := fun fields hprops => get?_params (by simp) h hprops

end Written

/-- The groups of a generic read by their places; missing ones are null. -/
def placed (args : List Value) : List (Facet × Value) :=
  [(.source, (groupsOf args).getD 0 .null), (.edge, (groupsOf args).getD 1 .null),
    (.target, (groupsOf args).getD 2 .null)]

/-- Does the group describe an entity that can stand at the place?  A node has no distance. -/
def IsReadable (facet : Facet) (group : Value) : Prop :=
  ∃ x, Entity.ofGroup group = .ok x ∧ (facet ≠ .edge → x.distance? = none)

section Readable

variable {group : Value}

theorem isReadable_edge_iff : IsReadable .edge group ↔ ∃ x, Entity.ofGroup group = .ok x := by
  simp [IsReadable]

theorem isReadable_node_iff {facet : Facet} (h : facet ≠ .edge) (place : NodePlace) :
    IsReadable facet group ↔ ∃ x, Pattern.nodeOfGroup place group = .ok x := by
  refine exists_congr fun x => ?_
  rw [Pattern.nodeOfGroup_eq_ok_iff, and_congr_right_iff]
  exact fun _ => ⟨fun hx => hx h, fun hx _ => hx⟩

theorem isReadable_source_iff :
    IsReadable .source group ↔ ∃ x, Pattern.nodeOfGroup .source group = .ok x :=
  isReadable_node_iff (by decide) .source

theorem isReadable_target_iff :
    IsReadable .target group ↔ ∃ x, Pattern.nodeOfGroup .target group = .ok x :=
  isReadable_node_iff (by decide) .target

end Readable

/-- Does the statement of a call have the labels of a group, and its property map? -/
structure Kept (args : List Value) (s : Statement) (facet : Facet) (group : Value) : Prop where
  /-- The labels stand in the text. -/
  shows : ∀ label ∈ group.givenLabels, label ≠ "" → Shows s.query facet label
  /-- The property map is bound, but not for the edge of a path. -/
  binds : ¬ (facet = .edge ∧ IsPathRead .findGraph args) →
    ∀ fields, .map fields ∈ group.spliced → fields ≠ [] →
      s.params.get? facet.paramName = some (.map fields)

/-- A generic read loses nothing that it is given, and refuses what it cannot read. -/
structure KeepsConstraints (args : List Value) : Prop where
  refuses : ∀ facet group, (facet, group) ∈ placed args → ¬ IsReadable facet group →
    ∃ cause, findGraph args = .error (.shape cause)
  keeps : ∀ s, findGraph args = .ok s → ∀ facet group, (facet, group) ∈ placed args →
    Kept args s facet group

section Reads

variable {args : List Value} {s : Statement} {facet : Facet} {group : Value}

/-- What a read does with each of its groups.

Without an edge there is no pattern for it, and the second node is left out; every other
group is read, and written but for the property map of the edge of a path.
-/
theorem exists_writes (h : findGraph args = .ok s) (hplace : (facet, group) ∈ placed args) :
    (facet = .edge ∧ group = .null) ∨
    (facet = .target ∧ (groupsOf args).getD 1 .null = .null) ∨
    ∃ x written, Entity.ofGroup group = .ok x ∧ (facet ≠ .edge → x.distance? = none) ∧
      written.labels = x.labels ∧
      (¬ (facet = .edge ∧ IsPathRead .findGraph args) → written = x) ∧
      Writes s facet written := by
  obtain ⟨-, -, clauses, hclauses, hgroups⟩ := findGraph_eq_ok_iff.1 h
  obtain ⟨a, ha, hrest⟩ := findGraphOfGroups_eq_ok_iff.1 hgroups
  obtain ⟨ha, hdistA⟩ := nodeOfGroup_eq_ok_iff.1 ha
  simp only [placed, List.mem_cons, Prod.mk.injEq, List.not_mem_nil, or_false] at hplace
  rcases hrest with ⟨hedge, -, rfl⟩ | ⟨-, e, b, he, hb, rfl⟩
  · rcases hplace with ⟨rfl, rfl⟩ | ⟨rfl, rfl⟩ | ⟨rfl, -⟩
    · exact Or.inr (Or.inr ⟨a, a, ha, fun _ => hdistA, rfl, fun _ => rfl, writes_foundFirst⟩)
    · exact Or.inl ⟨rfl, hedge⟩
    · exact Or.inr (Or.inl ⟨rfl, hedge⟩)
  · obtain ⟨hb, hdistB⟩ := nodeOfGroup_eq_ok_iff.1 hb
    refine Or.inr (Or.inr ?_)
    rcases hplace with ⟨rfl, rfl⟩ | ⟨rfl, rfl⟩ | ⟨rfl, rfl⟩
    · exact ⟨a, a, ha, fun _ => hdistA, rfl, fun _ => rfl, writes_foundGraph (by simp)⟩
    · refine ⟨e, if clauses.path.isSome then pathEdge e else e, he, fun hne => absurd rfl hne, ?_,
        fun hread => ?_, writes_foundGraph (by simp)⟩
      · split
        · exact labels_pathEdge e
        · rfl
      · rw [if_neg fun hpath => hread ⟨rfl, (isPathRead_iff hclauses).2 hpath⟩]
    · exact ⟨b, b, hb, fun _ => hdistB, rfl, fun _ => rfl, writes_foundGraph (by simp)⟩

/-- A read keeps what a group says, unless it is the second node where there is no edge. -/
theorem kept_of_findGraph (h : findGraph args = .ok s) (hplace : (facet, group) ∈ placed args) :
    (facet = .target ∧ (groupsOf args).getD 1 .null = .null) ∨
      IsReadable facet group ∧ Kept args s facet group := by
  obtain ⟨rfl, rfl⟩ | hsecond | ⟨x, written, hx, hdistance, hlabels, hwritten, hwrites⟩ :=
    exists_writes h hplace
  · refine Or.inr ⟨⟨⟨.free, []⟩, rfl, fun _ => rfl⟩, nofun, fun _ fields hmem => ?_⟩
    simp [Value.spliced] at hmem
  · exact Or.inl hsecond
  · refine Or.inr ⟨⟨x, hx, hdistance⟩, fun label hlabel hne => ?_, fun hread fields hmem hne => ?_⟩
    · rw [← Entity.labels_of_ofGroup hx, ← hlabels] at hlabel
      exact shows_of_body_infix hwrites.text hlabel hne
    · obtain rfl := hwritten hread
      exact hwrites.param fields
        (Entity.boundProps?_of_binding (Entity.binding_of_mem_spliced hx hmem) hne)

/-- Without an edge, no parameter is that of the second node. -/
theorem get?_target_of_edge_eq_null
    (h : findGraph args = .ok s) (hedge : (groupsOf args).getD 1 .null = .null) :
    s.params.get? Facet.target.paramName = none := by
  obtain ⟨-, -, clauses, -, hgroups⟩ := findGraph_eq_ok_iff.1 h
  obtain ⟨a, -, ⟨-, -, rfl⟩ | ⟨hne, -⟩⟩ := findGraphOfGroups_eq_ok_iff.1 hgroups
  · have hkeys := keys_params_sublist [(Facet.source, a)]
    exact PropertyMap.get?_eq_none_iff.2 fun hmem =>
      absurd (hkeys.subset hmem) (by simp [Facet.paramName])
  · exact absurd hedge hne

end Reads

/-- A generic read loses nothing unless it leaves out the second node for want of an edge.

It keeps what it is given, and refuses what it cannot read, exactly if it gives no statement,
has an edge, or is given a second node that can be read, without properties and with labels
that stand in the text in any case.
-/
theorem keepsConstraints_iff (args : List Value) :
    KeepsConstraints args ↔
      ∀ s, findGraph args = .ok s → (groupsOf args).getD 1 .null = .null →
        IsReadable .target ((groupsOf args).getD 2 .null) ∧
        (∀ label ∈ ((groupsOf args).getD 2 .null).givenLabels, label ≠ "" →
          Shows s.query .target label) ∧
        ∀ fields, .map fields ∈ ((groupsOf args).getD 2 .null).spliced → fields = [] := by
  have hplace : (.target, (groupsOf args).getD 2 .null) ∈ placed args := by
    simp [placed]
  constructor
  · intro hkeeps s hs hedge
    have hkept := hkeeps.keeps s hs .target _ hplace
    refine ⟨?_, hkept.shows, fun fields hmem => ?_⟩
    · by_contra hunread
      obtain ⟨cause, hcause⟩ := hkeeps.refuses .target _ hplace hunread
      rw [hs] at hcause
      cases hcause
    · by_contra hne
      have hbound := hkept.binds (by simp) fields hmem hne
      rw [get?_target_of_edge_eq_null hs hedge] at hbound
      cases hbound
  · intro hsecond
    have hread {s : Statement} {facet : Facet} {group : Value} (hs : findGraph args = .ok s)
        (hgroup : (facet, group) ∈ placed args) :
        IsReadable facet group ∧ Kept args s facet group := by
      rcases kept_of_findGraph hs hgroup with ⟨rfl, hedge⟩ | hkept
      · obtain rfl : group = (groupsOf args).getD 2 .null := by simpa [placed] using hgroup
        obtain ⟨hreadable, hlabels, hmaps⟩ := hsecond s hs hedge
        exact ⟨hreadable, hlabels, fun _ fields hmem hne => absurd (hmaps fields hmem) hne⟩
      · exact hkept
    refine ⟨fun facet group hgroup hunread => ?_,
      fun s hs facet group hgroup => (hread hs hgroup).2⟩
    cases hs : findGraph args with
    | ok s =>
        exact absurd (hread hs hgroup).1 hunread
    | error e =>
        obtain ⟨cause, rfl⟩ := findGraph_eq_error hs
        exact ⟨cause, rfl⟩

/-- A read of one node, with something in the place of a second node that is no group. -/
def strayTarget : List Value :=
  [.list [.str "alpha"], .null, .list [.int 5], .str "RETURN a"]

/-- A deletion of one node that is to be restricted by a second one. -/
def restrictedDeletion : List Value :=
  [.list [.str "alpha"], .null, .list [.map [("k", .int 2)], .str "beta"], .str "DELETE a"]

/-- Without an edge, a second node is neither read nor refused, and a deletion is not restricted. -/
theorem second_node_is_dropped :
    findGraph strayTarget = .ok { query := "MATCH (a:alpha) RETURN a", params := [] } ∧
    ¬ KeepsConstraints strayTarget ∧
    findGraph restrictedDeletion = .ok { query := "MATCH (a:alpha) DELETE a", params := [] } ∧
    ¬ KeepsConstraints restrictedDeletion := by
  have hstray : findGraph strayTarget =
      .ok { query := "MATCH (a:alpha) RETURN a", params := [] } := by
    decide +kernel
  have hdeletion : findGraph restrictedDeletion =
      .ok { query := "MATCH (a:alpha) DELETE a", params := [] } := by
    decide +kernel
  have hunread : ¬ IsReadable .target (.list [.int 5]) := by
    rintro ⟨x, hx, -⟩
    cases hx
  refine ⟨hstray, fun hkeeps => ?_, hdeletion, fun hkeeps => ?_⟩
  · obtain ⟨cause, hcause⟩ := hkeeps.refuses .target (.list [.int 5]) (by decide) hunread
    rw [hstray] at hcause
    cases hcause
  · have hkept := hkeeps.keeps _ hdeletion .target
      (.list [.map [("k", .int 2)], .str "beta"]) (by decide)
    have hbound := hkept.binds (by simp) [("k", .int 2)] (by simp [Value.spliced]) (by simp)
    cases hbound

end Render
end CypherBatch
