import CypherBatch.Proofs.NodeCalls

/-!
# Reads of edges of one unit

The unit of an edge statement is a list of groups, and the batch reader wants a group
among the arguments that is not just an entity part.  It refuses groups that are all
property maps and strings, and takes groups of groups for a list of units.

A read of one group that is boxed once too often is still that read if the further
items of the group say nothing.  Whether they do is read off the text up to the
bracket of the edge, which relaxed expansion leaves as it is.
-/

namespace CypherBatch

namespace EdgeType

/-- A text up to its first bracket, with the two characters behind it. -/
def opening : List Char → List Char
  | [] => []
  | c :: cs => if c = '[' then c :: cs.take 2 else c :: opening cs

@[simp] theorem opening_bracket (cs : List Char) :
    opening ('[' :: cs) = '[' :: cs.take 2 := by
  rfl

theorem opening_cons {c : Char} (h : c ≠ '[') (cs : List Char) :
    opening (c :: cs) = c :: opening cs := by
  simp [opening, h]

theorem opening_append_bracket (before x y : List Char) (c d : Char) :
    opening (before ++ '[' :: c :: d :: x) = opening (before ++ '[' :: c :: d :: y) := by
  induction before with
  | nil =>
      rfl
  | cons b before ih =>
      by_cases hb : b = '['
      · subst hb
        match before with
        | [] | [_] | _ :: _ :: _ =>
            simp
      · rw [List.cons_append, List.cons_append, opening_cons hb, opening_cons hb, ih]

/-- Writing types as alternatives leaves the parameters and the opening of a text alone. -/
theorem expand_relaxed_eq (s : Statement) :
    ∃ query, expand .relaxed s = .ok [{ s with query := query }] ∧
      opening query.toList = opening s.query.toList := by
  obtain hsame | ⟨token, hfind, hsame⟩ := expand_relaxed_cases s
  · exact ⟨s.query, hsame, rfl⟩
  · refine ⟨_, hsame, ?_⟩
    obtain ⟨hlabels, htext, -⟩ := Token.find?_spec hfind
    obtain ⟨label, labels, hcons⟩ := List.exists_cons_of_ne_nil hlabels
    rw [htext, hcons, String.toList_ofList, Token.replaced, labelRun_cons]
    exact opening_append_bracket _ _ _ _ _

theorem opening_eq_of_expand_relaxed_eq
    {s t : Statement} (h : expand .relaxed s = expand .relaxed t) :
    s.params = t.params ∧ opening s.query.toList = opening t.query.toList := by
  obtain ⟨query, hs, hquery⟩ := expand_relaxed_eq s
  obtain ⟨query', ht, hquery'⟩ := expand_relaxed_eq t
  rw [hs, ht, Except.ok.injEq, List.cons.injEq, Statement.mk.injEq] at h
  obtain ⟨⟨rfl, hparams⟩, -⟩ := h
  exact ⟨hparams, hquery.symm.trans hquery'⟩

end EdgeType

namespace Value

/-- Does the value say nothing, whether it stands in a group or is one? -/
def isSilent : Value → Bool
  | .null | .map [] => true
  | .str s => s = ""
  | .list items => items.all fun item => item = .str ""
  | _ => false

/-- A value that plays a role is silent if the entity it describes is like one without parts. -/
theorem isSilent_iff_alike
    {v : Value} (h : EntityPart.ofValue v ≠ .unknown) :
    isSilent v = true ↔ (EntityPart.ofValue v).alone.Alike ⟨.free, []⟩ := by
  match v with
  | .null | .list [] | .map [] =>
      exact iff_of_true rfl ⟨rfl, rfl, rfl⟩
  | .bool _ | .int _ | .float _ =>
      exact absurd rfl h
  | .map (field :: fields) =>
      refine iff_of_false (by simp [isSilent]) fun halike => ?_
      have hprops := halike.props
      simp [EntityPart.ofValue, EntityPart.alone, Entity.boundProps?] at hprops
  | .str s =>
      by_cases hstar : isDistanceText s = true
      · have hne : s ≠ "" := by
          rintro rfl
          cases hstar
        refine iff_of_false (by simp [isSilent, hne]) fun halike => ?_
        have hdistance := halike.distance
        simp [EntityPart.ofValue, EntityPart.alone, Entity.distance?, hstar] at hdistance
      · constructor
        · intro hs
          obtain rfl : s = "" := by simpa [isSilent] using hs
          exact ⟨by rfl, rfl, rfl⟩
        · intro halike
          have hlabels := halike.labels
          simpa [EntityPart.ofValue, EntityPart.alone, hstar, isSilent] using hlabels
  | .list (v :: rest) =>
      rw [EntityPart.ofValue_list_cons] at h ⊢
      cases hnames : labelNamesOf? (v :: rest) with
      | none =>
          simp [hnames] at h
      | some names =>
          have hitems := eq_map_str_of_labelNamesOf? hnames
          have hsilent : isSilent (.list (v :: rest)) = true ↔ ∀ name ∈ names, name = "" := by
            rw [hitems]
            simp [isSilent]
          rw [hsilent]
          constructor
          · intro hempty
            exact ⟨by simpa [EntityPart.alone] using hempty, rfl, rfl⟩
          · intro halike
            have hlabels := halike.labels
            simpa [EntityPart.alone] using hlabels

end Value

namespace Entity

open Value

theorem binding_of_alike
    {part : EntityPart} {b : Binding} (h : part.alone.Alike ⟨.free, []⟩)
    (hb : part.binding? = some b) :
    b = .free ∨ b = .props [] := by
  cases part with
  | nothing | labels | unknown =>
      cases hb
  | binding b' =>
      obtain rfl : b' = b := Option.some.inj hb
      cases b' with
      | free =>
          exact Or.inl rfl
      | distance =>
          cases h.distance
      | props fields =>
          cases fields with
          | nil =>
              exact Or.inr rfl
          | cons =>
              cases h.props

theorem labels_of_alike
    {part : EntityPart} {names : List String} (h : part.alone.Alike ⟨.free, []⟩)
    (hnames : part.labels? = some names) :
    names.filter (· ≠ "") = [] := by
  cases part with
  | nothing | binding | unknown =>
      cases hnames
  | labels names' =>
      obtain rfl : names' = names := Option.some.inj hnames
      exact h.labels

/-- A group of which all items but the first are silent is read as its first item is. -/
theorem alike_of_silent_rest
    {group v : Value} {rest : List Value} {x : Entity}
    (h : ofItems group (v :: rest) = .ok x)
    (hsilent : ∀ w ∈ rest, isSilent w = true) :
    x.Alike (EntityPart.ofValue v).alone := by
  have hroles := role_of_mem_of_ofItems h
  have halike : ∀ w ∈ rest, (EntityPart.ofValue w).alone.Alike ⟨.free, []⟩ := fun w hw =>
    (isSilent_iff_alike (hroles w (by simp [hw]))).1 (hsilent w hw)
  obtain ⟨b?, names?, hbindings, hlabels, rfl⟩ := ofItems_eq_ok h
  have hsame : b?.getD .free = (EntityPart.ofValue v).alone.binding ∨
      (EntityPart.ofValue v).alone.binding = .free ∧
        (b?.getD .free = .free ∨ b?.getD .free = .props []) := by
    rw [EntityPart.alone_binding]
    rcases eq_of_filterMap_cons hbindings with ⟨rfl, -⟩ | ⟨hnone, hrest⟩
    · exact Or.inl rfl
    · refine Or.inr ⟨by rw [hnone]; rfl, ?_⟩
      cases b? with
      | none =>
          exact Or.inl rfl
      | some b =>
          have hmem : b ∈ (some b).toList := by simp
          rw [← hrest] at hmem
          obtain ⟨w, hw, hpart⟩ := List.mem_filterMap.1 hmem
          exact binding_of_alike (halike w hw) hpart
  have hnames : (names?.getD []).filter (· ≠ "") =
      (EntityPart.ofValue v).alone.labels.filter (· ≠ "") := by
    rw [EntityPart.alone_labels]
    rcases eq_of_filterMap_cons hlabels with ⟨rfl, -⟩ | ⟨hnone, hrest⟩
    · rfl
    · rw [hnone]
      cases names? with
      | none =>
          rfl
      | some names =>
          have hmem : names ∈ (some names).toList := by simp
          rw [← hrest] at hmem
          obtain ⟨w, hw, hpart⟩ := List.mem_filterMap.1 hmem
          exact labels_of_alike (halike w hw) hpart
  rcases hsame with hsame | ⟨hfree, hempty | hempty⟩
  · exact ⟨hnames, by simp [boundProps?, hsame], by simp [distance?, hsame]⟩
  · exact ⟨hnames, by simp [boundProps?, hfree, hempty], by simp [distance?, hfree, hempty]⟩
  · exact ⟨hnames, by simp [boundProps?, hfree, hempty], by simp [distance?, hfree, hempty]⟩

end Entity

namespace Render

open Pattern EdgeType

/-- The entity that nothing is said of. -/
def anything : Entity := ⟨.free, []⟩

section Texts

variable {a a' e e' b b' : Entity}

theorem toList_query_foundEdge (a e b : Entity) :
    (foundEdge a e b).query.toList =
      "MATCH (a".toList ++ ((Name.labelText a.labels).toList ++ (rest .source a ++
        (")-[e".toList ++ ((Name.labelText e.labels).toList ++ (rest .edge e ++
          ("]->(b".toList ++ ((Name.labelText b.labels).toList ++ (rest .target b ++
            ") RETURN e".toList)))))))) := by
  simp only [foundEdge, node, edge, String.toList_append, toList_body, Facet.varName,
    List.append_assoc]
  simp

/-- Alike entities are found by the same statement. -/
theorem foundEdge_congr (ha : a.Alike a') (he : e.Alike e') (hb : b.Alike b') :
    foundEdge a e b = foundEdge a' e' b' := by
  simp only [foundEdge, node, edge, body_congr ha, body_congr he, body_congr hb, params,
    List.filterMap_cons, List.filterMap_nil, ha.props, he.props, hb.props]

/-- A property map of a node is missing where nothing is said of the node. -/
theorem boundProps?_of_params_eq
    (h : (foundEdge a e b).params = (foundEdge anything e' anything).params) :
    a.boundProps? = none ∧ b.boundProps? = none := by
  have hnode : ∀ facet x fields, facet ≠ Facet.edge →
      (facet, x) ∈ [(Facet.source, a), (Facet.edge, e), (Facet.target, b)] →
      x.boundProps? ≠ some fields := by
    intro facet x fields hfacet hmem hprops
    have hparam : (facet.paramName, Value.map fields) ∈ (foundEdge a e b).params :=
      mem_params_iff.2 ⟨facet, x, fields, hmem, hprops, rfl, rfl⟩
    rw [h] at hparam
    obtain ⟨facet', y, fields', hmem', hprops', hname, -⟩ := mem_params_iff.1 hparam
    obtain rfl := paramName_injective hname
    simp only [List.mem_cons, Prod.mk.injEq, List.not_mem_nil, or_false] at hmem'
    rcases hmem' with ⟨rfl, rfl⟩ | ⟨rfl, -⟩ | ⟨rfl, rfl⟩
    · cases hprops'
    · exact hfacet rfl
    · cases hprops'
  constructor
  · by_contra hsome
    obtain ⟨fields, hfields⟩ := Option.ne_none_iff_exists'.1 hsome
    exact hnode .source a fields (by decide) (by simp) hfields
  · by_contra hsome
    obtain ⟨fields, hfields⟩ := Option.ne_none_iff_exists'.1 hsome
    exact hnode .target b fields (by decide) (by simp) hfields

/-- Behind the variable of the edge stand its labels, its properties, or the closing bracket. -/
theorem opening_foundEdge
    (hlabels : (Name.labelText a.labels).toList = []) (hrest : rest .source a = []) :
    opening (foundEdge a e b).query.toList =
      "MATCH (a)-[e".toList ++
        ((Name.labelText e.labels).toList ++ (rest .edge e ++ [']'])).take 1 := by
  rw [toList_query_foundEdge, hlabels, hrest]
  rcases Name.labelText_cases e.labels with hnil | ⟨cs, hcs⟩
  · rcases rest_cases .edge e with hrest' | ⟨cs, hcs⟩
    · simp [hnil, hrest', opening]
    · simp [hnil, hcs, opening]
  · simp [hcs, opening]

/-- Nothing is said of the nodes if the read is written as one of its edge alone. -/
theorem alike_of_expand_relaxed_eq
    (ha : a.distance? = none) (hb : b.distance? = none)
    (hlabels : ¬ (∀ label ∈ b.labels, label = "") → e.labels = [] ∧ e'.labels = b.labels)
    (h : expand .relaxed (foundEdge a e b) = expand .relaxed (foundEdge anything e' anything)) :
    a.Alike anything ∧ b.Alike anything := by
  obtain ⟨hparams, hopening⟩ := opening_eq_of_expand_relaxed_eq h
  obtain ⟨hpropsA, hpropsB⟩ := boundProps?_of_params_eq hparams
  have hrestA := @rest_eq_nil .source a hpropsA ha
  have hnone : (Name.labelText anything.labels).toList = [] := rfl
  rw [@opening_foundEdge anything e' anything hnone (rest_eq_nil rfl rfl)] at hopening
  have hlabelsA : (Name.labelText a.labels).toList = [] := by
    rcases Name.labelText_cases a.labels with hnil | ⟨cs, hcs⟩
    · exact hnil
    · rw [toList_query_foundEdge, hcs] at hopening
      simp [opening] at hopening
  have hlabelsB : ∀ label ∈ b.labels, label = "" := by
    by_contra hsome
    obtain ⟨he, he'⟩ := hlabels hsome
    rw [opening_foundEdge hlabelsA hrestA, he, he', List.append_cancel_left_eq] at hopening
    rcases Name.labelText_cases b.labels with hnil | ⟨cs, hcs⟩
    · exact hsome ((Name.labelText_eq_empty_iff _).1 (String.toList_inj.1 hnil))
    · rcases rest_cases .edge e with hrest | ⟨ds, hds⟩
      · simp [hcs, hrest] at hopening
      · simp [hcs, hds] at hopening
  have hlabelsA' : ∀ label ∈ a.labels, label = "" :=
    (Name.labelText_eq_empty_iff _).1 (String.toList_inj.1 hlabelsA)
  constructor
  · exact ⟨by simpa [anything] using hlabelsA', hpropsA, ha⟩
  · exact ⟨by simpa [anything] using hlabelsB, hpropsB, hb⟩

end Texts

end Render

namespace Operation

open Value Outcome Render EdgeType

/--
Does the batch reader find one unit in the arguments of a read of edges, or a group
that is boxed once too often and of which only the first item says something?
-/
def IsSingleEdge (u : List Value) : Prop :=
  rank (.list u) = 1 ∨
    rank (.list u) = 2 ∧ ∃ v rest, u = [.list (v :: rest)] ∧ rest.length ≤ 2 ∧
      ∀ w ∈ rest, isSilent w = true

section Reads

variable {u : List Value} {s : Statement}

theorem ofGroup_of_findEdge
    {group : Value} {tail : List Value} (h : findEdge (group :: tail) = .ok s) :
    ∃ x, Entity.ofGroup group = .ok x ∧ (tail = [] → s = foundEdge anything x anything) := by
  obtain ⟨-, a, x, b, ha, hx, hb, rfl⟩ := findEdge_eq_ok_iff.1 h
  refine ⟨x, hx, ?_⟩
  rintro rfl
  obtain rfl := Except.ok.inj ha
  obtain rfl := Except.ok.inj hb
  rfl

/-- Above the rank of a unit, a list of groups has rank two, and its first group has rank one. -/
theorem rank_groups
    {group : Value} {tail : List Value} {x : Entity} (hx : Entity.ofGroup group = .ok x)
    (h : 1 < rank (.list (group :: tail))) :
    rank (.list (group :: tail)) = 2 ∧ group.rank = 1 := by
  have hparts : (group :: tail).all isEntityPart = false := by
    refine Bool.eq_false_of_not_eq_true fun hall => ?_
    rw [rank_list_of_parts hall] at h
    omega
  have hrank := rank_list_cons_of_not_parts hparts
  have hle := Entity.rank_le_one_of_ofGroup hx
  omega

/-- An item with labels keeps the other items from having some. -/
theorem labels_of_mem_rest
    {group v w : Value} {rest : List Value} {x : Entity}
    (h : Entity.ofItems group (v :: rest) = .ok x) (hw : w ∈ rest ∨ w = .null)
    (hlabels : ¬ ∀ label ∈ (EntityPart.ofValue w).alone.labels, label = "") :
    (EntityPart.ofValue v).alone.labels = [] ∧ x.labels = (EntityPart.ofValue w).alone.labels := by
  obtain ⟨b?, names?, -, hfound, rfl⟩ := Entity.ofItems_eq_ok h
  rw [EntityPart.alone_labels] at hlabels ⊢
  rw [EntityPart.alone_labels]
  rcases hw with hw | rfl
  · cases hnames : (EntityPart.ofValue w).labels? with
    | none =>
        exact absurd (by simp [hnames]) hlabels
    | some names =>
        have hmem : names ∈ rest.filterMap fun w => (EntityPart.ofValue w).labels? :=
          List.mem_filterMap.2 ⟨w, hw, hnames⟩
        rcases Entity.eq_of_filterMap_cons hfound with ⟨-, hrest⟩ | ⟨hfirst, hrest⟩
        · rw [hrest] at hmem
          cases hmem
        · rw [hrest] at hmem
          obtain rfl : names? = some names := by simpa using hmem
          exact ⟨by rw [hfirst]; rfl, rfl⟩
  · exact absurd (by simp [EntityPart.ofValue, EntityPart.labels?]) hlabels

theorem nodeOfGroup_of_role
    {place : NodePlace} {v : Value} (hrole : EntityPart.ofValue v ≠ .unknown) :
    (∃ e, Pattern.nodeOfGroup place v = .error e ∧ isSilent v = false) ∨
      (EntityPart.ofValue v).alone.distance? = none ∧
        Pattern.nodeOfGroup place v = .ok (EntityPart.ofValue v).alone := by
  cases hdistance : (EntityPart.ofValue v).alone.distance? with
  | none =>
      exact Or.inr ⟨rfl, Pattern.nodeOfGroup_eq_ok_iff.2 ⟨Entity.ofGroup_of_role hrole, hdistance⟩⟩
  | some text =>
      refine Or.inl ⟨.nodeDistance text place, ?_, ?_⟩
      · simp [Pattern.nodeOfGroup, Entity.ofGroup_of_role hrole, hdistance]
      · refine Bool.eq_false_of_not_eq_true fun hsilent => ?_
        have halike := ((isSilent_iff_alike hrole).1 hsilent).distance
        rw [hdistance] at halike
        cases halike

theorem forall_mem_iff_getD
    {P : Value → Prop} {rest : List Value} (hlength : rest.length ≤ 2) (hnull : P .null) :
    (∀ w ∈ rest, P w) ↔ P (rest.getD 0 .null) ∧ P (rest.getD 1 .null) := by
  match rest, hlength with
  | [], _ | [_], _ | [_, _], _ =>
      simp [hnull]

/-- A group of rank one is a list that is read item by item. -/
theorem boxed_of_rank_eq_one
    {group : Value} {x : Entity} (h : Entity.ofGroup group = .ok x) (hone : group.rank = 1) :
    ∃ v rest, group = .list (v :: rest) ∧
      Entity.ofItems (.list (v :: rest)) (v :: rest) = .ok x := by
  match group, hone with
  | .list (v :: rest), hone =>
      have hparts : (v :: rest).all isEntityPart = false := by
        refine Bool.eq_false_of_not_eq_true fun hall => ?_
        rw [rank_list_of_parts hall] at hone
        cases hone
      rw [Entity.ofGroup_list_of_labelNamesOf?_eq_none (labelNamesOf?_of_not_parts hparts)] at h
      exact ⟨v, rest, rfl, h⟩

/-- A boxed group is read alike as a group and as a unit if its further items are silent. -/
theorem findEdge_boxed_iff
    {v : Value} {rest : List Value} {x : Entity} (hlength : rest.length ≤ 2)
    (h : Entity.ofItems (.list (v :: rest)) (v :: rest) = .ok x) :
    (findEdge (v :: rest)).bind (expand .relaxed) =
        expand .relaxed (foundEdge anything x anything) ↔
      ∀ w ∈ rest, isSilent w = true := by
  have hroles := Entity.role_of_mem_of_ofItems h
  have hnull : EntityPart.ofValue .null ≠ .unknown := by
    decide
  obtain ⟨hrole, hrole'⟩ :=
    (forall_mem_iff_getD (P := fun w => EntityPart.ofValue w ≠ .unknown) hlength hnull).1
      fun w hw => hroles w (by simp [hw])
  obtain ⟨query, hexpand, -⟩ := expand_relaxed_eq (foundEdge anything x anything)
  have hthree : (v :: rest).length ≤ 3 :=
    Nat.succ_le_succ hlength
  rw [findEdge_of_length_le hthree, findEdgeOfGroups_eq, List.getD_cons_zero, List.getD_cons_succ,
    List.getD_cons_succ, Entity.ofGroup_of_role (hroles v (by simp)),
    forall_mem_iff_getD (P := fun w => isSilent w = true) hlength rfl]
  rcases @nodeOfGroup_of_role .source _ hrole with ⟨e, he, hloud⟩ | ⟨hdistance, ha⟩
  · rw [he, hexpand]
    exact iff_of_false (by simp) fun hboth => absurd (hloud.symm.trans hboth.1) (by decide)
  rcases @nodeOfGroup_of_role .target _ hrole' with ⟨e, he, hloud⟩ | ⟨hdistance', hb⟩
  · rw [ha, he, hexpand]
    exact iff_of_false (by simp) fun hboth => absurd (hloud.symm.trans hboth.2) (by decide)
  rw [ha, hb]
  simp only [ComposeError.liftShape_ok, ok_bind, ok_map]
  constructor
  · intro hsame
    -- labels on the target are the labels of the whole group
    obtain ⟨halike, halike'⟩ := alike_of_expand_relaxed_eq hdistance hdistance'
      (labels_of_mem_rest h (Value.getD_null rest 1)) hsame
    exact ⟨(isSilent_iff_alike hrole).2 halike, (isSilent_iff_alike hrole').2 halike'⟩
  · rintro ⟨hsilent, hsilent'⟩
    have halike := Entity.alike_of_silent_rest h
      ((forall_mem_iff_getD (P := fun w => isSilent w = true) hlength rfl).2
        ⟨hsilent, hsilent'⟩)
    rw [foundEdge_congr ((isSilent_iff_alike hrole).1 hsilent) halike.symm
      ((isSilent_iff_alike hrole').1 hsilent')]
    rfl

/-- A call composes the read of its edge exactly when it is one unit, or such a boxed group. -/
theorem getEdge_statements_iff
    (h : findEdge u = .ok s) :
    getEdge.statements u = expand .relaxed s ↔ IsSingleEdge u := by
  obtain ⟨query, hexpand, -⟩ := expand_relaxed_eq s
  rcases Nat.lt_trichotomy (rank (.list u)) 1 with hzero | hone | htwo
  · rw [statements_eq, unitRank, Units.resolve_of_rank_lt (by rw [Units.edgeRank]; omega), hexpand]
    refine iff_of_false (by simp) ?_
    rintro (hone | ⟨htwo, -⟩) <;> omega
  · have hresolve : Units.resolve getEdge.unitRank u = .ok [u] :=
      Units.resolve_of_rank_eq (by rw [hone]; rfl)
    rw [getEdge.statements_of_resolve hresolve, ofUnits_singleton, ofUnit, h, ok_bind]
    exact iff_of_true rfl (Or.inl hone)
  · cases u with
    | nil =>
        exact absurd htwo (by decide)
    | cons group tail =>
        obtain ⟨x, hx, hs⟩ := ofGroup_of_findEdge h
        obtain ⟨hrank, hgroup⟩ := rank_groups hx htwo
        have hresolve : Units.resolve getEdge.unitRank (group :: tail) =
            .ok ((group :: tail).map spliced) :=
          Units.resolve_of_rank_succ (by rw [hrank]; rfl)
        rw [getEdge.statements_of_resolve hresolve]
        cases tail with
        | cons next tail =>
            rw [hexpand]
            refine iff_of_false (fun hone => ?_) ?_
            · have hcount := length_of_ofUnits length_getEdge_ofUnit hone
              simp at hcount
            · rintro (hone | ⟨-, v, rest, heq, -⟩)
              · omega
              · cases heq
        | nil =>
            obtain ⟨v, rest, rfl, hitems⟩ := boxed_of_rank_eq_one hx hgroup
            rw [hs rfl, List.map_singleton, ofUnits_singleton]
            by_cases hlength : rest.length ≤ 2
            · refine (findEdge_boxed_iff hlength hitems).trans ⟨fun hsilent => ?_, ?_⟩
              · exact Or.inr ⟨hrank, v, rest, rfl, hlength, hsilent⟩
              · rintro (hone | ⟨-, v', rest', heq, -, hsilent⟩)
                · omega
                · obtain ⟨-, rfl⟩ : v = v' ∧ rest = rest' := by simpa using heq
                  exact hsilent
            · have hmany : 3 < (v :: rest).length := by
                rw [List.length_cons]
                omega
              rw [← hs rfl, hexpand, ofUnit, spliced, findEdge_of_length_gt hmany]
              refine iff_of_false (by simp) ?_
              rintro (hone | ⟨-, v', rest', heq, hle', -⟩)
              · omega
              · obtain ⟨-, rfl⟩ : v = v' ∧ rest = rest' := by simpa using heq
                exact hlength hle'

end Reads

end Operation
end CypherBatch
