import CypherBatch.Proofs.Batches
import CypherBatch.Proofs.Entities
import CypherBatch.Proofs.Renderers

/-!
# The three ways of giving units

Units are given alone, one behind another, or in one list.  The reader tells
these apart by the rank of the arguments, and the rank takes a list of two or
more items that begins with a string for a list of labels, whatever follows.

So a unit that begins with a string, such as a label in front of its property map
or a clause in front of its groups, does not look like a unit.  One unit of
another look is enough to tell that the arguments are units; without one, every
operation fails on both ways of giving several units.
-/

namespace CypherBatch
namespace Operation

open Value Outcome

/--
Do the given units show that they are units?  Some of them has to look other than
a list of labels; a single unit of a node statement need not, since its labels
and its parts are read alike.
-/
def TellsApart (op : Operation) (units : List (List Value)) : Prop :=
  (∃ unit ∈ units, isMultiLabel (.list unit) = false) ∨
    (op.unitRank = Units.nodeRank ∧ units.length = 1)

section Ranks

variable {units : List (List Value)} {unitRank : Int}

/-- Units all look like lists of labels, or one does not. -/
theorem all_isEntityPart_map_list
    (units : List (List Value)) :
    (units.map Value.list).all isEntityPart = true ↔
      ∀ unit ∈ units, isMultiLabel (.list unit) = true := by
  simp

/-- A list of units does not look like a list of labels. -/
theorem isMultiLabel_map_list
    (units : List (List Value)) :
    isMultiLabel (.list (units.map Value.list)) = false := by
  cases units with
  | nil =>
      rfl
  | cons unit rest =>
      simp

/-- A list of units that look like lists of labels has rank zero. -/
theorem rank_map_list_of_isMultiLabel
    (h : ∀ unit ∈ units, isMultiLabel (.list unit) = true) :
    rank (.list (units.map Value.list)) = 0 :=
  rank_list_of_parts ((all_isEntityPart_map_list units).2 h)

/-- A list of units of which one looks other is one level above its first unit. -/
theorem rank_map_list
    (hunits : ∀ unit ∈ units.head?, (rank (.list unit) : Int) = unitRank)
    (h : ∃ unit ∈ units, isMultiLabel (.list unit) = false) :
    (rank (.list (units.map Value.list)) : Int) = unitRank + 1 := by
  cases units with
  | nil =>
      simp at h
  | cons first rest =>
      have hparts : ((first :: rest).map Value.list).all isEntityPart = false := by
        obtain ⟨unit, hunit, hlook⟩ := h
        refine Bool.eq_false_of_not_eq_true fun hall => ?_
        have htrue := (all_isEntityPart_map_list _).1 hall unit hunit
        simp [hlook] at htrue
      have hrank := rank_list_cons_of_not_parts hparts
      have hfirst := hunits first rfl
      rw [List.map_cons, hrank]
      push_cast
      omega

end Ranks

section Failures

/-- Two lists that look like lists of labels do not make a group. -/
theorem ofGroup_two_isMultiLabel
    {first second : List Value} (rest : List Value)
    (hfirst : isMultiLabel (.list first) = true)
    (hsecond : isMultiLabel (.list second) = true) :
    ∃ e, Entity.ofGroup (.list (.list first :: .list second :: rest)) = .error e := by
  rw [Entity.ofGroup_list_of_labelNamesOf?_eq_none (Entity.labelNamesOf?_cons_list _ _)]
  obtain ⟨names, hnames⟩ | hunknown := EntityPart.ofValue_of_isMultiLabel hfirst
  · -- the first list is the labels, and leaves no place for the second one
    obtain ⟨names', hnames'⟩ | hunknown' := EntityPart.ofValue_of_isMultiLabel hsecond
    · simp [Entity.ofItems, List.foldlM_cons, EntityDraft.add, hnames, hnames',
        EntityDraft.empty]
    · simp [Entity.ofItems, List.foldlM_cons, EntityDraft.add, hnames, hunknown',
        EntityDraft.empty]
  · exact ⟨_, Entity.ofItems_of_unknown hunknown⟩

/-- Two or more lists that look like lists of labels are no unit of a node statement. -/
theorem ofUnit_two_isMultiLabel
    {op : Operation} (hop : op.unitRank = Units.nodeRank)
    {first second : List Value} (rest : List Value)
    (hfirst : isMultiLabel (.list first) = true)
    (hsecond : isMultiLabel (.list second) = true) :
    ∃ e, op.ofUnit (.list first :: .list second :: rest) = .error e := by
  obtain ⟨e, he⟩ := ofGroup_two_isMultiLabel rest hfirst hsecond
  have hnode := @Pattern.nodeOfGroup_of_error .only _ _ he
  cases op with
  | addNode =>
      simp [ofUnit, Render.saveNode_eq, Render.nodeGroup, hnode]
  | getNode =>
      simp [ofUnit, Render.findNode_eq, Render.nodeGroup, hnode]
  | addEdge | getEdge | get =>
      simp [unitRank, Units.nodeRank, Units.edgeRank] at hop

/-- One list of units is no unit of an edge statement. -/
theorem ofUnit_boxed_units
    {op : Operation} (hop : op.unitRank = Units.edgeRank)
    {first : List Value} (rest : List (List Value))
    (hfirst : first.all isEntityPart = false) :
    ∃ e, op.ofUnit [.list ((first :: rest).map Value.list)] = .error e := by
  have hgroup : Entity.ofGroup (.list ((first :: rest).map Value.list)) =
      .error (.noRole (.list first)) := by
    rw [List.map_cons, Entity.ofGroup_list_of_labelNamesOf?_eq_none
      (Entity.labelNamesOf?_cons_list _ _)]
    exact Entity.ofItems_of_unknown (EntityPart.ofValue_of_not_parts hfirst)
  cases op with
  | addNode | getNode =>
      simp [unitRank, Units.nodeRank, Units.edgeRank] at hop
  | addEdge =>
      exact ⟨_, rfl⟩
  | getEdge =>
      refine ⟨.shape (.noRole (.list first)), ?_⟩
      simp only [ofUnit, Render.findEdge, Render.findEdgeOfGroups_eq, hgroup]
      rfl
  | get =>
      exact ⟨_, rfl⟩

end Failures

section Agreement

variable (op : Operation) {units : List (List Value)} {parts : List (List Statement)}

theorem ofUnits_eq_ok
    (hranks : ∀ unit ∈ units, (rank (.list unit) : Int) = op.unitRank)
    (hparts : units.mapM op.statements = .ok parts) :
    op.ofUnits units = .ok parts.flatten := by
  have hsame : units.mapM op.ofUnit = units.mapM op.statements := by
    refine mapM_congr fun unit hunit => ?_
    rw [op.statements_of_resolve (Units.resolve_of_rank_eq (hranks unit hunit)),
      ofUnits_singleton]
  rw [ofUnits, hsame, hparts]
  rfl

/-- Units of which one looks like a unit are read as they are, boxed or not, if the first one
has the rank of a unit. -/
theorem statements_of_look
    (hranks : ∀ unit ∈ units.head?, (rank (.list unit) : Int) = op.unitRank)
    (hlook : ∃ unit ∈ units, isMultiLabel (.list unit) = false) :
    op.statements (units.map Value.list) = op.ofUnits units ∧
      op.statements [.list (units.map Value.list)] = op.ofUnits units := by
  have hrank := rank_map_list hranks hlook
  have hboxed := rank_boxed (isMultiLabel_map_list units)
  constructor
  · apply op.statements_of_resolve
    rw [Units.resolve_of_rank_succ hrank, Units.map_spliced_map_list]
  · apply op.statements_of_resolve
    rw [Units.resolve_of_rank_add_two (by rw [hboxed]; push_cast; omega),
      Units.splice_singleton_list, Units.map_spliced_map_list]

section First

variable {first : List Value} (rest : List (List Value))
  (hlook : isMultiLabel (.list first) = false)
include hlook

/-- Boxed units are read as they are if the first one looks like a unit and has its rank. -/
theorem statements_boxed_of_first
    (hrank : (rank (.list first) : Int) = op.unitRank) :
    op.statements [.list ((first :: rest).map Value.list)] = op.ofUnits (first :: rest) := by
  refine (op.statements_of_look (fun unit hunit => ?_) ⟨first, by simp, hlook⟩).2
  obtain rfl : first = unit := by simpa using hunit
  exact hrank

/-- Boxed units are split into their items if the first one lies one level deeper than a unit. -/
theorem statements_boxed_of_deep_first
    (hrank : (rank (.list first) : Int) = op.unitRank + 1) :
    op.statements [.list ((first :: rest).map Value.list)] =
      op.ofUnits ((first :: rest).flatten.map spliced) := by
  have hfirst : ∀ unit ∈ (first :: rest).head?, (rank (.list unit) : Int) = op.unitRank + 1 := by
    intro unit hunit
    obtain rfl : first = unit := by simpa using hunit
    exact hrank
  have hlist := rank_map_list hfirst ⟨first, by simp, hlook⟩
  have hboxed := rank_boxed (isMultiLabel_map_list (first :: rest))
  apply op.statements_of_resolve
  rw [Units.resolve_of_rank_add_three (by rw [hboxed]; push_cast; omega),
    Units.splice_singleton_list, Units.splice_map_list]

end First

/-- Node units that all look like lists of labels are read as the parts of one unit. -/
theorem node_statements_of_isMultiLabel
    (hop : op.unitRank = Units.nodeRank)
    (hall : ∀ unit ∈ units, isMultiLabel (.list unit) = true) :
    op.statements (units.map Value.list) = op.ofUnit (units.map Value.list) ∧
      op.statements [.list (units.map Value.list)] = op.ofUnit (units.map Value.list) := by
  have hrank := rank_map_list_of_isMultiLabel hall
  have hboxed := rank_boxed (isMultiLabel_map_list units)
  constructor
  · rw [op.statements_of_resolve (Units.resolve_of_rank_eq (by rw [hrank, hop]; rfl)),
      ofUnits_singleton]
  · rw [op.statements_of_resolve (Units.resolve_of_rank_succ (by rw [hboxed, hrank, hop]; rfl)),
      List.map_singleton, ofUnits_singleton]
    rfl

/-- Edge units that all look like lists of labels are refused, or read as one group. -/
theorem edge_statements_of_isMultiLabel
    (hop : op.unitRank = Units.edgeRank)
    (hall : ∀ unit ∈ units, isMultiLabel (.list unit) = true) :
    op.statements (units.map Value.list) = .error (.shape (.shallow 0 Units.edgeRank)) ∧
      op.statements [.list (units.map Value.list)] =
        op.ofUnit [.list (units.map Value.list)] := by
  have hrank := rank_map_list_of_isMultiLabel hall
  have hboxed := rank_boxed (isMultiLabel_map_list units)
  constructor
  · rw [statements_eq, hop, Units.resolve_of_rank_lt (by rw [hrank]; decide), hrank]
    rfl
  · rw [op.statements_of_resolve (Units.resolve_of_rank_eq (by rw [hboxed, hrank, hop]; rfl)),
      ofUnits_singleton]

/-- A single node unit that looks like a list of labels is read alike as a unit and as a group. -/
theorem ofUnit_singleton_list
    (hop : op.unitRank = Units.nodeRank)
    {unit : List Value} (hunit : isMultiLabel (.list unit) = true) :
    op.ofUnit [.list unit] = op.ofUnit unit := by
  have hgroup : Render.nodeGroup [.list unit] = Render.nodeGroup unit := by
    match unit, hunit with
    | .str _ :: _ :: _, _ =>
        rfl
  cases op with
  | addNode =>
      simp only [ofUnit, Render.saveNode_eq, hgroup]
  | getNode =>
      simp only [ofUnit, Render.findNode_eq, hgroup]
  | addEdge | getEdge | get =>
      simp [unitRank, Units.nodeRank, Units.edgeRank] at hop

theorem unitRank_cases :
    op.unitRank = Units.nodeRank ∨ op.unitRank = Units.edgeRank := by
  cases op <;> simp [unitRank]

theorem nodeRank_ne_edgeRank : Units.nodeRank ≠ Units.edgeRank := by
  decide

/--
Units that are composed on their own are composed alike one behind another and in
one list exactly when they show that they are units.
-/
theorem conventions_agree_iff
    (hne : units ≠ [])
    (hunits : ∀ unit ∈ units, Units.convention op.unitRank unit = .ok .unit)
    (hparts : units.mapM op.statements = .ok parts) :
    (op.statements (units.map Value.list) = .ok parts.flatten ↔ op.TellsApart units) ∧
      (op.statements [.list (units.map Value.list)] = .ok parts.flatten ↔
        op.TellsApart units) := by
  have hranks : ∀ unit ∈ units, (rank (.list unit) : Int) = op.unitRank :=
    fun unit hunit => Units.convention_eq_unit_iff.1 (hunits unit hunit)
  have htogether := op.ofUnits_eq_ok hranks hparts
  by_cases hlook : ∃ unit ∈ units, isMultiLabel (.list unit) = false
  · -- one unit does not look like labels, and both readers find all units
    obtain ⟨hpositional, hboxed⟩ := op.statements_of_look
      (fun unit hunit => hranks unit (List.mem_of_mem_head? hunit)) hlook
    rw [hpositional, hboxed, htogether]
    exact ⟨iff_of_true rfl (Or.inl hlook), iff_of_true rfl (Or.inl hlook)⟩
  · have hall : ∀ unit ∈ units, isMultiLabel (.list unit) = true := by
      intro unit hunit
      by_contra hfalse
      exact hlook ⟨unit, hunit, Bool.eq_false_of_not_eq_true hfalse⟩
    rcases op.unitRank_cases with hop | hop
    · obtain ⟨hpositional, hboxed⟩ := op.node_statements_of_isMultiLabel hop hall
      rw [hpositional, hboxed]
      match units, hne with
      | [unit], _ =>
          have hunit := hall unit (by simp)
          have hsame := op.ofUnit_singleton_list hop hunit
          rw [ofUnits_singleton] at htogether
          rw [List.map_singleton, hsame, htogether]
          exact ⟨iff_of_true rfl (Or.inr ⟨hop, rfl⟩), iff_of_true rfl (Or.inr ⟨hop, rfl⟩)⟩
      | first :: second :: rest, _ =>
          obtain ⟨e, he⟩ :=
            ofUnit_two_isMultiLabel hop (rest.map Value.list)
              (hall first (by simp)) (hall second (by simp))
          have hnot : ¬ op.TellsApart (first :: second :: rest) := by
            rintro (happart | ⟨-, hlength⟩)
            · exact hlook happart
            · simp at hlength
          simp only [List.map_cons, he]
          exact ⟨iff_of_false (by simp) hnot, iff_of_false (by simp) hnot⟩
    · obtain ⟨hpositional, hboxed⟩ := op.edge_statements_of_isMultiLabel hop hall
      have hnot : ¬ op.TellsApart units := by
        rintro (happart | ⟨hnode, -⟩)
        · exact hlook happart
        · exact nodeRank_ne_edgeRank (hnode.symm.trans hop)
      match units, hne with
      | first :: rest, _ =>
          have hfirst : first.all isEntityPart = false := by
            refine Bool.eq_false_of_not_eq_true fun hparts => ?_
            have hrank := hranks first (by simp)
            rw [rank_list_of_parts hparts, hop] at hrank
            exact absurd hrank (by decide)
          obtain ⟨e, he⟩ := ofUnit_boxed_units hop rest hfirst
          rw [hpositional, hboxed, he]
          exact ⟨iff_of_false (by simp) hnot, iff_of_false (by simp) hnot⟩

end Agreement

/-- A label in front of the property map hides two node units, given in either way. -/
theorem label_first_units_disagree :
    (∀ unit ∈ [[Value.str "alpha", .map [("k", .int 1)]], [.str "beta", .map [("k", .int 2)]]],
      Units.convention getNode.unitRank unit = .ok .unit) ∧
    [[Value.str "alpha", .map [("k", .int 1)]], [.str "beta", .map [("k", .int 2)]]].mapM
      getNode.statements =
      .ok [[⟨"MATCH (u:alpha \x7bk: \x7bprop\x7d.k\x7d) RETURN u",
          [("prop", .map [("k", .int 1)])]⟩],
        [⟨"MATCH (u:beta \x7bk: \x7bprop\x7d.k\x7d) RETURN u",
          [("prop", .map [("k", .int 2)])]⟩]] ∧
    (getNode.statements [.list [.str "alpha", .map [("k", .int 1)]],
      .list [.str "beta", .map [("k", .int 2)]]]).toOption = none ∧
    (getNode.statements [.list [.list [.str "alpha", .map [("k", .int 1)]],
      .list [.str "beta", .map [("k", .int 2)]]]]).toOption = none := by
  decide +kernel

/-- A clause in front of its group does no harm beside a unit that begins with a group. -/
theorem clause_first_unit_agrees_beside_another :
    get.statements [.list [.str "RETURN a", .list [.map [("k", .int 1)]]],
        .list [.list [.str "beta"], .str "RETURN a"]] =
      .ok [⟨"MATCH (a \x7bk: \x7bpropA\x7d.k\x7d) RETURN a", [("propA", .map [("k", .int 1)])]⟩,
        ⟨"MATCH (a:beta) RETURN a", []⟩] := by
  have hunits : ∀ unit ∈ [[Value.str "RETURN a", .list [.map [("k", .int 1)]]],
      [.list [.str "beta"], .str "RETURN a"]],
      Units.convention get.unitRank unit = .ok .unit := by
    decide +kernel
  have hparts : [[Value.str "RETURN a", .list [.map [("k", .int 1)]]],
      [.list [.str "beta"], .str "RETURN a"]].mapM get.statements =
      .ok [[⟨"MATCH (a \x7bk: \x7bpropA\x7d.k\x7d) RETURN a",
          [("propA", .map [("k", .int 1)])]⟩],
        [⟨"MATCH (a:beta) RETURN a", []⟩]] := by
    decide +kernel
  have hlook : get.TellsApart [[Value.str "RETURN a", .list [.map [("k", .int 1)]]],
      [.list [.str "beta"], .str "RETURN a"]] :=
    Or.inl ⟨[.list [.str "beta"], .str "RETURN a"], by simp, rfl⟩
  exact (get.conventions_agree_iff (by simp) hunits hparts).1.2 hlook

end Operation
end CypherBatch
