import CypherBatch.Proofs.EdgeReads

/-!
# Calls of one unit

A creation of three groups that are boxed once too often creates nothing: none of the
items of a group is both a type and a property map.  With that, all calls that a
renderer accepts are told apart by the batch reader as `single_calls_iff` says.
-/

namespace CypherBatch
namespace Operation

open Value Outcome Render EdgeType

section Creations

variable {u : List Value} {r : Option Statement}

/-- The items of a group save no edge: none of them is both a label and a property map. -/
theorem saveEdge_items
    {group : Value} {x : Entity} (h : Entity.ofGroup group = .ok x)
    (hr : saveEdge group.spliced = .ok r) :
    r = none := by
  match group, hr with
  | .list [edge, source, target], hr =>
      cases r with
      | none =>
          rfl
      | some s =>
          obtain ⟨labels, fields, a, b, he, hlabels, -⟩ := saveEdgeOfGroups_eq_some_iff.1 hr
          have hrole := Entity.role_of_mem_of_ofGroup h edge (by simp)
          rw [Entity.ofGroup_of_role hrole, Except.ok.injEq] at he
          cases hpart : EntityPart.ofValue edge with
          | nothing | labels | unknown =>
              simp [hpart, EntityPart.alone] at he
          | binding b =>
              rw [hpart, EntityPart.alone, Entity.mk.injEq] at he
              exact absurd he.2.symm hlabels

/-- Saving an edge never fails for want of a type in the text. -/
theorem saveEdge_ne_error_statement (u : List Value) :
    saveEdge u ≠ .error (.label .statement) := by
  match u with
  | [] | [_] | [_, _] | _ :: _ :: _ :: _ :: _ =>
      simp [saveEdge]
  | [edge, source, target] =>
      intro h
      cases (saveEdgeOfGroups_eq_label_iff.1 h).1

theorem expanded_strict_some (s : Statement) :
    expanded .strict (some s) = .error (.label .statement) ∨
      ∃ first rest, expanded .strict (some s) = .ok (first :: rest) := by
  cases hfind : Token.find? s.query.toList with
  | none =>
      exact Or.inl (by simp [expanded, expand, hfind])
  | some token =>
      obtain ⟨label, labels, hcons⟩ := List.exists_cons_of_ne_nil (Token.find?_spec hfind).1
      exact Or.inr (by simp [expanded, expand, hfind, hcons])

/-- The items of a group fail or save nothing. -/
theorem ofUnit_addEdge_items
    {group : Value} {x : Entity} (h : Entity.ofGroup group = .ok x) :
    addEdge.ofUnit group.spliced = .ok [] ∨
      ∃ e, addEdge.ofUnit group.spliced = .error e ∧ e ≠ .label .statement := by
  cases hsave : saveEdge group.spliced with
  | ok r =>
      rw [ofUnit, hsave, saveEdge_items h hsave]
      exact Or.inl rfl
  | error e =>
      refine Or.inr ⟨e, by rw [ofUnit, hsave]; rfl, ?_⟩
      rintro rfl
      exact saveEdge_ne_error_statement _ hsave

theorem ofUnits_nil_or_error
    {op : Operation} {units : List (List Value)}
    (h : ∀ unit ∈ units, op.ofUnit unit = .ok [] ∨
      ∃ e, op.ofUnit unit = .error e ∧ e ≠ .label .statement) :
    op.ofUnits units = .ok [] ∨ ∃ e, op.ofUnits units = .error e ∧ e ≠ .label .statement := by
  induction units with
  | nil =>
      exact Or.inl rfl
  | cons unit units ih =>
      rw [ofUnits_cons]
      rcases h unit (by simp) with hunit | ⟨e, hunit, he⟩
      · rw [hunit]
        rcases ih fun other hother => h other (by simp [hother]) with hunits | ⟨e, hunits, he⟩
        · exact Or.inl (by rw [hunits]; rfl)
        · exact Or.inr ⟨e, by rw [hunits]; rfl, he⟩
      · exact Or.inr ⟨e, by rw [hunit]; rfl, he⟩

/-- Units without statements are units that have none each. -/
theorem ofUnit_of_ofUnits_eq_nil
    {op : Operation} {units : List (List Value)} (h : op.ofUnits units = .ok []) :
    ∀ unit ∈ units, op.ofUnit unit = .ok [] := by
  induction units with
  | nil =>
      simp
  | cons unit units ih =>
      rw [ofUnits_cons] at h
      obtain ⟨first, hfirst, h⟩ := bind_eq_ok_iff.1 h
      obtain ⟨rest, hrest, hnil⟩ := map_eq_ok_iff.1 h
      obtain ⟨rfl, rfl⟩ := List.append_eq_nil_iff.1 hnil
      intro other hother
      rcases List.mem_cons.1 hother with rfl | hother
      · exact hfirst
      · exact ih hrest other hother

theorem ofUnits_addEdge_eq_nil_iff (groups : List Value) :
    addEdge.ofUnits (groups.map spliced) = .ok [] ↔
      ∀ group ∈ groups, saveEdge group.spliced = .ok none := by
  constructor
  · intro hnil group hgroup
    have hunit := ofUnit_of_ofUnits_eq_nil hnil group.spliced (List.mem_map_of_mem hgroup)
    obtain ⟨r, hr, hexpanded⟩ := bind_eq_ok_iff.1 hunit
    cases r with
    | none =>
        exact hr
    | some s =>
        rcases expanded_strict_some s with hs | ⟨first, rest, hs⟩
        · rw [hs] at hexpanded
          cases hexpanded
        · rw [hs] at hexpanded
          cases hexpanded
  · intro hnone
    have hunits : ∀ group ∈ groups, addEdge.ofUnit group.spliced = .ok [] := by
      intro group hgroup
      rw [ofUnit, hnone group hgroup]
      rfl
    rw [ofUnits_map_eq_ok hunits, List.flatMap_eq_nil_iff.2 fun _ _ => rfl]

/-- The items of groups that save an edge together do not compose the copies of its statement. -/
theorem ofUnits_addEdge_ne
    {edge source target : Value} {s : Statement}
    (h : saveEdge [edge, source, target] = .ok (some s)) :
    addEdge.ofUnits ([edge, source, target].map spliced) ≠ expanded .strict (some s) := by
  obtain ⟨labels, fields, a, b, he, -, -, ha, hb, -⟩ := saveEdgeOfGroups_eq_some_iff.1 h
  have hitems : ∀ unit ∈ [edge, source, target].map spliced,
      addEdge.ofUnit unit = .ok [] ∨
        ∃ e, addEdge.ofUnit unit = .error e ∧ e ≠ .label .statement := by
    intro unit hunit
    simp only [List.map_cons, List.map_nil, List.mem_cons, List.not_mem_nil, or_false] at hunit
    rcases hunit with rfl | rfl | rfl
    · exact ofUnit_addEdge_items he
    · exact ofUnit_addEdge_items (Pattern.nodeOfGroup_eq_ok_iff.1 ha).1
    · exact ofUnit_addEdge_items (Pattern.nodeOfGroup_eq_ok_iff.1 hb).1
  intro hsame
  rcases ofUnits_nil_or_error hitems with hnil | ⟨e, herror, hne⟩
  · rw [hnil] at hsame
    rcases expanded_strict_some s with hs | ⟨first, rest, hs⟩
    · cases hsame.trans hs
    · cases hsame.trans hs
  · rw [herror] at hsame
    rcases expanded_strict_some s with hs | ⟨first, rest, hs⟩
    · exact hne (Except.error.inj (hsame.trans hs))
    · cases hsame.trans hs

theorem rank_eq_two_of_saveEdge
    (h : saveEdge u = .ok r) (htwo : 1 < rank (.list u)) :
    rank (.list u) = 2 := by
  obtain ⟨edge, source, target, rfl, hgroups⟩ := exists_groups_of_saveEdge h
  rw [saveEdgeOfGroups_eq] at hgroups
  obtain ⟨x, hx, -⟩ := bind_eq_ok_iff.1 hgroups
  exact (rank_groups (ComposeError.liftShape_eq_ok_iff.1 hx) htwo).1

/--
A call composes the copies of the statement that saves its edge exactly when it is
one unit, or nothing is saved by the groups together nor by the items of each.
-/
theorem addEdge_statements_iff
    (h : saveEdge u = .ok r) :
    addEdge.statements u = expanded .strict r ↔
      rank (.list u) = 1 ∨
        rank (.list u) = 2 ∧ r = none ∧ ∀ group ∈ u, saveEdge group.spliced = .ok none := by
  rcases Nat.lt_trichotomy (rank (.list u)) 1 with hzero | hone | htwo
  · rw [statements_eq, unitRank, Units.resolve_of_rank_lt (by rw [Units.edgeRank]; omega)]
    refine iff_of_false ?_ (by omega)
    cases r with
    | none =>
        simp [expanded]
    | some s =>
        rcases expanded_strict_some s with hs | ⟨first, rest, hs⟩
        · simp [hs]
        · simp [hs]
  · have hresolve : Units.resolve addEdge.unitRank u = .ok [u] :=
      Units.resolve_of_rank_eq (by rw [hone]; rfl)
    rw [addEdge.statements_of_resolve hresolve, ofUnits_singleton, ofUnit, h, ok_bind]
    exact iff_of_true rfl (Or.inl hone)
  · have hrank := rank_eq_two_of_saveEdge h htwo
    have hresolve : Units.resolve addEdge.unitRank u = .ok (u.map spliced) :=
      Units.resolve_of_rank_succ (by rw [hrank]; rfl)
    rw [addEdge.statements_of_resolve hresolve]
    cases r with
    | none =>
        refine (ofUnits_addEdge_eq_nil_iff u).trans ⟨fun hnone => Or.inr ⟨hrank, rfl, hnone⟩, ?_⟩
        rintro (hone | ⟨-, -, hnone⟩)
        · omega
        · exact hnone
    | some s =>
        obtain ⟨edge, source, target, rfl, -⟩ := exists_groups_of_saveEdge h
        refine iff_of_false (ofUnits_addEdge_ne h) ?_
        rintro (hone | ⟨-, hnone, -⟩)
        · omega
        · cases hnone

end Creations

/--
A call that a renderer accepts composes what the renderer writes exactly when the
batch reader finds that one unit in it, up to calls whose units say as much one by one.
-/
theorem single_calls_iff (u : List Value) :
    (∀ s, findNode u = .ok s → (getNode.statements u = .ok [s] ↔ IsSingleNode u)) ∧
    (∀ r, saveNode u = .ok r →
      (addNode.statements u = .ok r.toList ↔
        IsSingleNode u ∨ r = none ∨
          ∃ x, Entity.ofGroup (nodeGroup u) = .ok x ∧ ∀ label ∈ x.labels, label = "")) ∧
    (∀ s, findEdge u = .ok s →
      (getEdge.statements u = expand .relaxed s ↔ IsSingleEdge u)) ∧
    (∀ r, saveEdge u = .ok r →
      (addEdge.statements u = expanded .strict r ↔
        rank (.list u) = 1 ∨
          rank (.list u) = 2 ∧ r = none ∧ ∀ group ∈ u, saveEdge group.spliced = .ok none)) := by
  refine ⟨?_, ?_, ?_, ?_⟩
  · exact fun s h => getNode_statements_iff h
  · exact fun r h => addNode_statements_iff h
  · exact fun s h => getEdge_statements_iff h
  · exact fun r h => addEdge_statements_iff h

/-- A read of edges without groups is refused, and a list of one label is a node of its own. -/
theorem accepted_calls_of_other_units :
    findEdge [] = .ok ⟨"MATCH (a)-[e]->(b) RETURN e", []⟩ ∧
    expand .relaxed ⟨"MATCH (a)-[e]->(b) RETURN e", []⟩ =
      .ok [⟨"MATCH (a)-[e]->(b) RETURN e", []⟩] ∧
    getEdge.statements [] = .error (.shape (.shallow 0 1)) ∧
    findNode [.map [("k", .int 1)], .list [.str "alpha"]] =
      .ok ⟨"MATCH (u:alpha \x7bk: \x7bprop\x7d.k\x7d) RETURN u",
        [("prop", .map [("k", .int 1)])]⟩ ∧
    getNode.statements [.map [("k", .int 1)], .list [.str "alpha"]] =
      .ok [⟨"MATCH (u \x7bk: \x7bprop\x7d.k\x7d) RETURN u", [("prop", .map [("k", .int 1)])]⟩,
        ⟨"MATCH (u:alpha) RETURN u", []⟩] := by
  decide +kernel

/-- Two labels are one unit of a read of nodes, and a list of one label one of a read of edges. -/
theorem label_calls_are_single :
    getNode.statements [.str "alpha", .str "beta"] =
      .ok [⟨"MATCH (u:alpha:beta) RETURN u", []⟩] ∧
    getEdge.statements [.list [.str "knows"]] =
      expand .relaxed ⟨"MATCH (a)-[e:knows]->(b) RETURN e", []⟩ := by
  have hnode : findNode [.str "alpha", .str "beta"] =
      .ok ⟨"MATCH (u:alpha:beta) RETURN u", []⟩ := by
    decide +kernel
  have hedge : findEdge [.list [.str "knows"]] =
      .ok ⟨"MATCH (a)-[e:knows]->(b) RETURN e", []⟩ := by
    decide +kernel
  exact ⟨((single_calls_iff _).1 _ hnode).2 (Or.inl rfl),
    ((single_calls_iff _).2.2.1 _ hedge).2 (Or.inl rfl)⟩

end Operation
end CypherBatch
