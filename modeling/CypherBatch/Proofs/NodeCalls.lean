import CypherBatch.Proofs.Batches
import CypherBatch.Proofs.Entities
import CypherBatch.Proofs.PatternTexts
import CypherBatch.Proofs.Renderers

/-!
# Node calls of one unit

The arguments of a node statement are the parts of one group, or the group itself.
The batch reader takes them for one unit if they are all entity parts, or if they
are one group that is boxed once too often.  In any other call each item of the
group becomes a unit of its own: a list of one label and null are no entity parts.

A read then has several statements in the place of one.  A creation still has one,
that of the property map, but the labels are lost.
-/

namespace CypherBatch
namespace Operation

open Value Outcome Render

/-- Does the batch reader find one unit in the arguments of a node statement? -/
def IsSingleNode (u : List Value) : Prop :=
  u.all isEntityPart = true ∨
    ∃ group, u = [group] ∧ (group.isEntityParts = true ∨ group.spliced.length ≤ 1)

section Readings

variable {group : Value} {u : List Value} {x : Entity}

theorem ofGroup_of_list_singleton
    {v : Value} (h : Entity.ofGroup (.list [v]) = .ok x) :
    Entity.ofGroup v = .ok x := by
  obtain ⟨hrole, rfl⟩ := Entity.ofItems_singleton.1 h
  exact Entity.ofGroup_of_role hrole

/-- The items of a group are read as the group is. -/
theorem ofGroup_nodeGroup_spliced
    (h : Entity.ofGroup group = .ok x) :
    Entity.ofGroup (nodeGroup group.spliced) = .ok x := by
  match group with
  | .null | .bool _ | .int _ | .float _ | .str _ | .map _ | .list [] | .list (_ :: _ :: _) =>
      exact h
  | .list [v] =>
      exact ofGroup_of_list_singleton h

theorem isEntityParts_or_of_rank_eq_zero
    (h : group.rank = 0) :
    group.isEntityParts = true ∨ group.spliced.length ≤ 1 := by
  match group with
  | .null | .bool _ | .int _ | .float _ | .str _ | .map _ =>
      exact Or.inr (Nat.le_refl 1)
  | .list items =>
      exact Or.inl ((rank_list_eq_zero_iff items).1 h)

theorem ofItems_of_not_parts
    {items : List Value} (hitems : items.all isEntityPart = false)
    (h : Entity.ofGroup (.list items) = .ok x) :
    Entity.ofItems (.list items) items = .ok x := by
  rwa [Entity.ofGroup_list_of_labelNamesOf?_eq_none (labelNamesOf?_of_not_parts hitems)] at h

/-- A boxed group that is no list of entity parts is one unit if it has one item. -/
theorem isSingleNode_boxed_iff
    {items : List Value} (hboxed : [Value.list items].all isEntityPart = false)
    (hitems : items.all isEntityPart = false) :
    IsSingleNode [.list items] ↔ items.length ≤ 1 := by
  constructor
  · rintro (hall | ⟨group, heq, hall | hlength⟩)
    · rw [hboxed] at hall
      cases hall
    · obtain rfl := (List.cons.inj heq).1
      exact absurd (hitems.symm.trans hall) (by decide)
    · obtain rfl := (List.cons.inj heq).1
      exact hlength
  · exact fun hlength => Or.inr ⟨_, rfl, Or.inr hlength⟩

/-- A boxed group of rank one is read item by item. -/
theorem resolve_boxed_of_rank_eq_one
    {items : List Value} (hboxed : [Value.list items].all isEntityPart = false)
    (hone : rank (.list items) = 1) :
    Units.resolve Units.nodeRank [.list items] = .ok (items.map spliced) := by
  have hrank := rank_list_cons_of_not_parts hboxed
  rw [Units.resolve_of_rank_add_two (by rw [hrank, hone]; rfl), Units.splice_singleton_list]

/-- A group is one unit, or its items are the units. -/
theorem resolve_node_cases
    (h : Entity.ofGroup (nodeGroup u) = .ok x) :
    (IsSingleNode u ∧ ∃ unit, Units.resolve Units.nodeRank u = .ok [unit] ∧
        Entity.ofGroup (nodeGroup unit) = .ok x) ∨
      (¬ IsSingleNode u ∧ ∃ items, 2 ≤ items.length ∧
        Units.resolve Units.nodeRank u = .ok (items.map spliced) ∧
        Entity.ofItems (.list items) items = .ok x) := by
  by_cases hparts : u.all isEntityPart = true
  · refine Or.inl ⟨Or.inl hparts, u, Units.resolve_of_rank_eq ?_, h⟩
    rw [rank_list_of_parts hparts]
    rfl
  have hparts : u.all isEntityPart = false := Bool.eq_false_of_not_eq_true hparts
  match u, hparts with
  | [group], hparts =>
      have hgroup : Entity.ofGroup group = .ok x := h
      have hle := Entity.rank_le_one_of_ofGroup hgroup
      by_cases hzero : group.rank = 0
      · refine Or.inl ⟨Or.inr ⟨group, rfl, isEntityParts_or_of_rank_eq_zero hzero⟩,
          group.spliced, ?_, ofGroup_nodeGroup_spliced hgroup⟩
        rw [Units.resolve_of_rank_succ (by rw [rank_list_cons_of_not_parts hparts, hzero]; rfl),
          List.map_singleton]
      · match group, hzero with
        | .list items, hzero =>
            have hitems : items.all isEntityPart = false :=
              Bool.eq_false_of_not_eq_true fun hall => hzero (rank_list_of_parts hall)
            have hresolve := resolve_boxed_of_rank_eq_one hparts (by omega)
            have hsingle := isSingleNode_boxed_iff hparts hitems
            match items, hitems with
            | [v], _ =>
                exact Or.inl ⟨hsingle.2 (Nat.le_refl 1), v.spliced, hresolve,
                  ofGroup_nodeGroup_spliced (ofGroup_of_list_singleton hgroup)⟩
            | v :: w :: rest, hitems =>
                exact Or.inr ⟨fun hone => by simpa using hsingle.1 hone, v :: w :: rest, by simp,
                  hresolve, ofItems_of_not_parts hitems hgroup⟩
  | v :: w :: rest, hparts =>
      have hgroup : Entity.ofGroup (.list (v :: w :: rest)) = .ok x := h
      have hle := Entity.rank_le_one_of_ofGroup hgroup
      have hrank := rank_list_cons_of_not_parts hparts
      have hone : rank (.list (v :: w :: rest)) = 1 := by omega
      refine Or.inr ⟨?_, v :: w :: rest, by simp,
        Units.resolve_of_rank_succ (by rw [hone]; rfl), ofItems_of_not_parts hparts hgroup⟩
      rintro (hall | ⟨group, heq, -⟩)
      · rw [hparts] at hall
        cases hall
      · simp at heq

end Readings

section Reads

variable {u : List Value} {s : Statement}

/-- A call composes the one statement that finds a node exactly when it is one unit. -/
theorem getNode_statements_iff
    (h : findNode u = .ok s) :
    getNode.statements u = .ok [s] ↔ IsSingleNode u := by
  rw [findNode_eq, map_eq_ok_iff] at h
  obtain ⟨x, hx, rfl⟩ := h
  rw [ComposeError.liftShape_eq_ok_iff, Pattern.nodeOfGroup_eq_ok_iff] at hx
  obtain ⟨hgroup, hdistance⟩ := hx
  rcases resolve_node_cases hgroup with
    ⟨hsingle, unit, hresolve, hunit⟩ | ⟨hsingle, items, hlength, hresolve, -⟩
  · rw [getNode.statements_of_resolve hresolve, ofUnits_singleton, ofUnit, findNode_eq,
      Pattern.nodeOfGroup_eq_ok_iff.2 ⟨hunit, hdistance⟩]
    exact iff_of_true rfl hsingle
  · refine iff_of_false (fun hone => ?_) hsingle
    rw [getNode.statements_of_resolve hresolve] at hone
    have hcount := length_of_ofUnits length_getNode_ofUnit hone
    simp only [List.length_singleton, List.length_map] at hcount
    omega

end Reads

section Creations

variable {u : List Value} {x : Entity}

theorem savedNode_nil_eq_iff (labels : List String) (fields : PropertyMap) :
    savedNode [] fields = savedNode labels fields ↔ ∀ label ∈ labels, label = "" := by
  rw [← Name.labelText_eq_empty_iff]
  constructor
  · intro h
    have hquery := congrArg (fun s => s.query.toList) h
    have hlabels : (Name.labelText []).toList = (Name.labelText labels).toList := by
      simpa [savedNode, Pattern.mergeBody] using hquery
    exact (String.toList_inj.1 hlabels).symm
  · intro h
    simp only [savedNode, Pattern.mergeBody, h]
    rfl

/-- An item that is no distance saves a node by its property map alone. -/
theorem ofUnit_addNode_of_role
    {v : Value} (hrole : EntityPart.ofValue v ≠ .unknown)
    (hdistance : (EntityPart.ofValue v).alone.distance? = none) :
    addNode.ofUnit v.spliced = .ok (savedNode? (EntityPart.ofValue v).alone).toList := by
  have hgroup := ofGroup_nodeGroup_spliced (Entity.ofGroup_of_role hrole)
  rw [ofUnit, saveNode_eq, Pattern.nodeOfGroup_eq_ok_iff.2 ⟨hgroup, hdistance⟩]
  rfl

theorem savedNode?_alone (part : EntityPart) :
    (savedNode? part.alone).toList =
      part.binding?.toList.flatMap fun b => (savedNode? ⟨b, []⟩).toList := by
  cases part <;> simp [EntityPart.alone, EntityPart.binding?, savedNode?, Entity.props?]

/-- The items of a group save the node of its property map, without the labels. -/
theorem ofUnits_addNode_items
    {items : List Value} (h : Entity.ofItems (.list items) items = .ok x)
    (hdistance : x.distance? = none) :
    addNode.ofUnits (items.map spliced) = .ok (savedNode? ⟨x.binding, []⟩).toList := by
  have hroles := Entity.role_of_mem_of_ofItems h
  obtain ⟨b?, names?, hbindings, -, rfl⟩ := Entity.ofItems_eq_ok h
  have hunits : ∀ v ∈ items, addNode.ofUnit v.spliced =
      .ok (savedNode? (EntityPart.ofValue v).alone).toList := by
    intro v hv
    refine ofUnit_addNode_of_role (hroles v hv) ?_
    cases hpart : EntityPart.ofValue v with
    | nothing | labels | unknown =>
        rfl
    | binding b =>
        have hmem : b ∈ b?.toList := by
          rw [← hbindings]
          exact List.mem_filterMap.2 ⟨v, hv, by rw [hpart]; rfl⟩
        obtain rfl : b? = some b := by simpa using hmem
        exact hdistance
  have hitems : (items.flatMap fun v => (savedNode? (EntityPart.ofValue v).alone).toList) =
      b?.toList.flatMap fun b => (savedNode? ⟨b, []⟩).toList := by
    simp only [savedNode?_alone]
    rw [← hbindings, List.filterMap_eq_flatMap_toList, List.flatMap_assoc]
  rw [ofUnits_map_eq_ok hunits, hitems]
  cases b? with
  | none =>
      rfl
  | some b =>
      simp

theorem savedNode?_without_labels (x : Entity) :
    (savedNode? ⟨x.binding, []⟩).toList = (savedNode? x).toList ↔
      savedNode? x = none ∨ ∀ label ∈ x.labels, label = "" := by
  obtain ⟨binding, labels⟩ := x
  cases binding with
  | free | distance =>
      simp [savedNode?, Entity.props?]
  | props fields =>
      by_cases hlegal : Value.isLegal (.map fields) = true
      · simp [savedNode?, Entity.props?, hlegal, savedNode_nil_eq_iff]
      · simp [savedNode?, Entity.props?, hlegal]

/--
A call composes what saves its node exactly when it is one unit, or nothing is saved,
or there are no labels to lose.
-/
theorem addNode_statements_iff
    {r : Option Statement} (h : saveNode u = .ok r) :
    addNode.statements u = .ok r.toList ↔
      IsSingleNode u ∨ r = none ∨
        ∃ x, Entity.ofGroup (nodeGroup u) = .ok x ∧ ∀ label ∈ x.labels, label = "" := by
  rw [saveNode_eq, map_eq_ok_iff] at h
  obtain ⟨x, hx, rfl⟩ := h
  rw [ComposeError.liftShape_eq_ok_iff, Pattern.nodeOfGroup_eq_ok_iff] at hx
  obtain ⟨hgroup, hdistance⟩ := hx
  have hlabels : (∃ y, Entity.ofGroup (nodeGroup u) = .ok y ∧ ∀ label ∈ y.labels, label = "") ↔
      ∀ label ∈ x.labels, label = "" := by
    simp [hgroup]
  rw [hlabels]
  rcases resolve_node_cases hgroup with
    ⟨hsingle, unit, hresolve, hunit⟩ | ⟨hsingle, items, -, hresolve, hitems⟩
  · rw [addNode.statements_of_resolve hresolve, ofUnits_singleton, ofUnit, saveNode_eq,
      Pattern.nodeOfGroup_eq_ok_iff.2 ⟨hunit, hdistance⟩]
    exact iff_of_true rfl (Or.inl hsingle)
  · rw [addNode.statements_of_resolve hresolve, ofUnits_addNode_items hitems hdistance,
      Except.ok.injEq, savedNode?_without_labels]
    exact (or_iff_right hsingle).symm

end Creations

end Operation
end CypherBatch
