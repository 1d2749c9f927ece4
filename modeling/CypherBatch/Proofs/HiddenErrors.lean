import CypherBatch.Proofs.Projections
import CypherBatch.Proofs.UntypedEdges
import CypherBatch.Proofs.ValueBlindness

/-!
# Errors behind illegal maps

Whether a call is written properly is to show in the shapes of its groups, whatever is stored
in their property maps.  Saving an edge looks at the map of the edge before it reads the nodes.
If the map is not legal, the edge is skipped, and nothing is said of nodes that cannot be read.

So two calls of the same shapes fail alike exactly if the edge has no label, in which case
both fail early, or the nodes can be read, or both maps are legal or both are not.  In a batch
there is one more error to be hidden, that of a text in which no type is found.
-/

namespace CypherBatch

open Outcome

/-- The value with nothing stored in its property maps. -/
def Value.shape : Value → Value :=
  remap fun _ => []

namespace ComposeError

variable {α β : Type}

/-- The kind of the error that an outcome is, unless it is a result. -/
def failure? : Except ComposeError α → Option Kind
  | .ok _ => none
  | .error e => some e.kind

@[simp] theorem failure?_ok (x : α) : failure? (.ok x) = none := by
  rfl

@[simp] theorem failure?_error (e : ComposeError) :
    failure? (.error e : Except ComposeError α) = some e.kind := by
  rfl

@[simp] theorem failure?_map (x : Except ComposeError α) (f : α → β) :
    failure? (x.map f) = failure? x := by
  cases x <;> rfl

theorem failure?_eq_of_agree
    {S : α → α → Prop} {x y : Except ComposeError α}
    (h : Agree (fun e f => e.kind = f.kind) S x y) :
    failure? x = failure? y := by
  cases h with
  | ok _ =>
      rfl
  | error h =>
      rw [failure?_error, failure?_error, h]

/-- Does the outcome fail exactly if the condition does not hold, with an error of the kind? -/
def FailsUnless (p : Prop) (k : Kind) (x : Except ComposeError α) : Prop :=
  (p ∧ failure? x = none) ∨ (¬ p ∧ failure? x = some k)

/-- Outcomes that fail with one kind of error fail alike exactly if their conditions agree. -/
theorem FailsUnless.failure?_eq_iff
    {p q : Prop} {k : Kind} {x y : Except ComposeError α}
    (hx : FailsUnless p k x) (hy : FailsUnless q k y) :
    failure? x = failure? y ↔ (p ↔ q) := by
  rcases hx with ⟨hp, hx⟩ | ⟨hp, hx⟩ <;> rcases hy with ⟨hq, hy⟩ | ⟨hq, hy⟩ <;>
    simp [hp, hq, hx, hy]

end ComposeError

namespace Render

open ComposeError EdgeType

section Shapes

variable {group group' : Value}

theorem ofGroup_agree_of_shape_eq (h : group.shape = group'.shape) :
    Agree (fun _ _ => True) (fun x x' => x.remap (fun _ => []) = x'.remap fun _ => [])
      (Entity.ofGroup group) (Entity.ofGroup group') :=
  Entity.ofGroup_agree_of_remap_eq _ h

/-- A group can be read or not as its shape says. -/
theorem isReadable_iff_of_shape_eq (h : group.shape = group'.shape) (facet : Facet) :
    IsReadable facet group ↔ IsReadable facet group' := by
  have hread := ofGroup_agree_of_shape_eq h
  unfold IsReadable
  generalize Entity.ofGroup group = r at hread
  generalize Entity.ofGroup group' = r' at hread
  cases hread with
  | error _ =>
      simp
  | @ok x x' hsame =>
      simp [Entity.distance?_eq_of_remap_eq _ hsame]

end Shapes

section Runs

variable {edge edge' source target : Value} {fields : PropertyMap} {labels : List String}

/-- Can the nodes be read, and is a type found in the text of the edge between them? -/
def IsComposable (edge source target : Value) : Prop :=
  ∃ a b, Pattern.nodeOfGroup .source source = .ok a ∧
    Pattern.nodeOfGroup .target target = .ok b ∧
    ofQuery (savedEdge edge.givenLabels [] a b).query ≠ []

/-- An edge with a label is skipped for its map, saved, or refused for the shape of a node. -/
theorem saveEdge_cases
    (he : Entity.ofGroup edge = .ok ⟨.props fields, labels⟩) (hne : labels ≠ [])
    (source target : Value) :
    (Value.isLegal (.map fields) = false ∧ saveEdge [edge, source, target] = .ok none) ∨
    (Value.isLegal (.map fields) = true ∧ ∃ a b, Pattern.nodeOfGroup .source source = .ok a ∧
      Pattern.nodeOfGroup .target target = .ok b ∧
      saveEdge [edge, source, target] = .ok (some (savedEdge labels fields a b))) ∨
    (Value.isLegal (.map fields) = true ∧
      ¬ (IsReadable .source source ∧ IsReadable .target target) ∧
      ∃ cause, saveEdge [edge, source, target] = .error (.shape cause)) := by
  have hlabels : labels.isEmpty = false := by simpa using hne
  rw [saveEdge, saveEdgeOfGroups_eq, he, liftShape_ok, ok_bind,
    isReadable_source_iff, isReadable_target_iff]
  cases hlegal : Value.isLegal (.map fields) with
  | false =>
      exact Or.inl ⟨rfl, by simp [hlabels, hlegal]⟩
  | true =>
      cases ha : Pattern.nodeOfGroup .source source with
      | error cause =>
          exact Or.inr (Or.inr ⟨rfl, by simp, cause, by simp [hlabels, hlegal]⟩)
      | ok a =>
          cases hb : Pattern.nodeOfGroup .target target with
          | error cause =>
              exact Or.inr (Or.inr ⟨rfl, by simp, cause, by simp [hlabels, hlegal]⟩)
          | ok b =>
              exact Or.inr (Or.inl ⟨rfl, a, b, rfl, rfl, by simp [hlabels, hlegal]⟩)

/-- Whatever an edge is refused for does not depend on nodes, but for a labelled one with a map. -/
theorem saveEdge_settled_or_props (h : edge.shape = edge'.shape) :
    ((edge.givenLabels = [] ∨ legal? edge = none ∧ legal? edge' = none) ∧
      ∀ source target source' target',
        Agree (fun e f => e.kind = f.kind) (fun s? s?' => s? = none ∧ s?' = none)
          (saveEdge [edge, source, target]) (saveEdge [edge', source', target'])) ∨
    ∃ fields fields' labels, Entity.ofGroup edge = .ok ⟨.props fields, labels⟩ ∧
      Entity.ofGroup edge' = .ok ⟨.props fields', labels⟩ ∧ labels ≠ [] := by
  have hread := ofGroup_agree_of_shape_eq h
  simp only [saveEdge, saveEdgeOfGroups_eq]
  generalize hr : Entity.ofGroup edge = r at hread ⊢
  generalize hr' : Entity.ofGroup edge' = r' at hread ⊢
  cases hread with
  | error _ =>
      refine Or.inl ⟨Or.inr ?_, fun _ _ _ _ => .error rfl⟩
      simp [legal?, hr, hr', Except.toOption]
  | @ok e e' hsame =>
      obtain ⟨binding, labels⟩ := e
      obtain ⟨binding', labels'⟩ := e'
      simp only [Entity.remap, Entity.mk.injEq] at hsame
      obtain ⟨hbinding, rfl⟩ := hsame
      simp only [liftShape_ok, ok_bind]
      by_cases hlabels : labels = []
      · have hgiven : labels = edge.givenLabels := Entity.labels_of_ofGroup hr
        refine Or.inl ⟨Or.inl (hgiven ▸ hlabels), fun _ _ _ _ => ?_⟩
        simp only [hlabels, List.isEmpty_nil, if_true]
        exact .error rfl
      · have hempty : labels.isEmpty = false := by simpa using hlabels
        simp only [hempty]
        cases binding <;> cases binding' <;> simp [Binding.remap] at hbinding
        case props.props fields fields' =>
          exact Or.inr ⟨fields, fields', labels, rfl, rfl, hlabels⟩
        case free.free =>
          exact Or.inl ⟨Or.inr ⟨legal?_of_ofGroup_eq_ok hr, legal?_of_ofGroup_eq_ok hr'⟩,
            fun _ _ _ _ => .ok ⟨rfl, rfl⟩⟩
        case distance.distance text text' =>
          exact Or.inl ⟨Or.inr ⟨legal?_of_ofGroup_eq_ok hr, legal?_of_ofGroup_eq_ok hr'⟩,
            fun _ _ _ _ => .error rfl⟩

/-- A text in which no type is found cannot be copied for its types. -/
theorem failure?_expand_strict (s : Statement) :
    failure? (expand .strict s) = if ofQuery s.query = [] then some .label else none := by
  cases hfind : Token.find? s.query.toList with
  | none =>
      simp [expand, ofQuery, hfind, kind]
  | some token =>
      rw [if_neg (ofQuery_ne_nil hfind), expand_strict_of_find? hfind, failure?_ok]

section Failures

variable (he : Entity.ofGroup edge = .ok ⟨.props fields, labels⟩) (hne : labels ≠ [])
include he hne

/-- A labelled edge that is legal is saved if its nodes can be read. -/
theorem saveEdge_failsUnless (source target : Value) :
    FailsUnless (legal? edge = some true → IsReadable .source source ∧ IsReadable .target target)
      .shape (saveEdge [edge, source, target]) := by
  have hmap : legal? edge = some (Value.isLegal (.map fields)) := legal?_of_ofGroup_eq_ok he
  obtain ⟨hlegal, hsaved⟩ | ⟨hlegal, a, b, ha, hb, hsaved⟩ | ⟨hlegal, hunread, cause, hsaved⟩ :=
    saveEdge_cases he hne source target
  · exact Or.inl ⟨by simp [hmap, hlegal], by rw [hsaved, failure?_ok]⟩
  · have hread : IsReadable .source source ∧ IsReadable .target target :=
      ⟨isReadable_source_iff.2 ⟨a, ha⟩, isReadable_target_iff.2 ⟨b, hb⟩⟩
    exact Or.inl ⟨fun _ => hread, by rw [hsaved, failure?_ok]⟩
  · exact Or.inr ⟨by simp [hmap, hlegal, hunread], by rw [hsaved, failure?_error, kind]⟩

/-- In a batch it is saved if moreover a type is found; what is wrong with a node is told first. -/
theorem ofUnit_failsUnless (source target : Value) :
    (IsReadable .source source ∧ IsReadable .target target →
      FailsUnless (legal? edge = some true → IsComposable edge source target) .label
        (Operation.addEdge.ofUnit [edge, source, target])) ∧
    (¬ (IsReadable .source source ∧ IsReadable .target target) →
      FailsUnless (legal? edge = some true → IsComposable edge source target) .shape
        (Operation.addEdge.ofUnit [edge, source, target])) := by
  have hmap : legal? edge = some (Value.isLegal (.map fields)) := legal?_of_ofGroup_eq_ok he
  rw [Operation.ofUnit]
  obtain ⟨hlegal, hsaved⟩ | ⟨hlegal, a, b, ha, hb, hsaved⟩ | ⟨hlegal, hunread, cause, hsaved⟩ :=
    saveEdge_cases he hne source target
  · have hskipped (k : Kind) :
        FailsUnless (legal? edge = some true → IsComposable edge source target) k
          ((saveEdge [edge, source, target]).bind (Operation.expanded .strict)) :=
      Or.inl ⟨by simp [hmap, hlegal], by rw [hsaved]; rfl⟩
    exact ⟨fun _ => hskipped .label, fun _ => hskipped .shape⟩
  · have hread : IsReadable .source source ∧ IsReadable .target target :=
      ⟨isReadable_source_iff.2 ⟨a, ha⟩, isReadable_target_iff.2 ⟨b, hb⟩⟩
    have hfound : IsComposable edge source target ↔
        ofQuery (savedEdge labels fields a b).query ≠ [] := by
      have hgiven : edge.givenLabels = labels := (Entity.labels_of_ofGroup he).symm
      simp only [IsComposable, hgiven, ha, hb, Except.ok.injEq, exists_and_left, exists_eq_left']
      rfl
    refine ⟨fun _ => ?_, fun hunread => absurd hread hunread⟩
    rw [hsaved, ok_bind, Operation.expanded, FailsUnless, failure?_expand_strict, hfound]
    by_cases hnone : ofQuery (savedEdge labels fields a b).query = [] <;>
      simp [hmap, hlegal, hnone]
  · have hnode : ¬ IsComposable edge source target := by
      rintro ⟨a, b, ha, hb, -⟩
      exact hunread ⟨isReadable_source_iff.2 ⟨a, ha⟩, isReadable_target_iff.2 ⟨b, hb⟩⟩
    refine ⟨fun hread => absurd hread hunread, fun _ => Or.inr ⟨?_, ?_⟩⟩
    · simp [hmap, hlegal, hnode]
    · rw [hsaved, error_bind, failure?_error, kind]

end Failures

end Runs

/-- A call that is read as one unit fails as the unit does. -/
theorem failure?_compose
    (op : Operation) {args unit : List Value}
    (h : Units.resolve op.unitRank args = .ok [unit]) :
    failure? (op.compose args) = failure? (op.ofUnit unit) := by
  have hstatements := Operation.statements_of_resolve op h
  rw [Operation.ofUnits_singleton] at hstatements
  rw [← hstatements, Operation.statements, failure?_map]

section SameShapes

variable {edge source target edge' source' target' : Value} (hedge : edge.shape = edge'.shape)
  (hsource : source.shape = source'.shape) (htarget : target.shape = target'.shape)
include hedge hsource htarget

/-- Two edges of the same shapes are refused alike unless a skipped one hides a node. -/
theorem failure?_saveEdge_eq_iff :
    failure? (saveEdge [edge, source, target]) = failure? (saveEdge [edge', source', target']) ↔
      edge.givenLabels = [] ∨ legal? edge = legal? edge' ∨
        (IsReadable .source source ∧ IsReadable .target target) := by
  rcases saveEdge_settled_or_props hedge with
    ⟨hmaps, hsame⟩ | ⟨fields, fields', labels, he, he', hne⟩
  · refine iff_of_true (failure?_eq_of_agree (hsame source target source' target')) ?_
    exact hmaps.imp_right fun hnone => Or.inl (hnone.1.trans hnone.2.symm)
  · have hgiven : edge.givenLabels ≠ [] := by rwa [← Entity.labels_of_ofGroup he]
    have hlegal : legal? edge = some (Value.isLegal (.map fields)) := legal?_of_ofGroup_eq_ok he
    have hlegal' : legal? edge' = some (Value.isLegal (.map fields')) := legal?_of_ofGroup_eq_ok he'
    rw [or_iff_right hgiven, (saveEdge_failsUnless he hne source target).failure?_eq_iff
      (saveEdge_failsUnless he' hne source' target'), ← isReadable_iff_of_shape_eq hsource,
      ← isReadable_iff_of_shape_eq htarget, hlegal, hlegal']
    by_cases hread : IsReadable .source source ∧ IsReadable .target target
    · simp [hread]
    · simp only [hread, or_false]
      cases Value.isLegal (.map fields) <;> cases Value.isLegal (.map fields') <;> simp

/-- In a batch, a skipped edge may moreover hide that no type is found. -/
theorem failure?_ofUnit_eq_iff :
    failure? (Operation.addEdge.ofUnit [edge, source, target]) =
        failure? (Operation.addEdge.ofUnit [edge', source', target']) ↔
      edge.givenLabels = [] ∨
        ((legal? edge = some true → IsComposable edge source target) ↔
          (legal? edge' = some true → IsComposable edge' source' target')) := by
  rcases saveEdge_settled_or_props hedge with
    ⟨hmaps, hsame⟩ | ⟨fields, fields', labels, he, he', hne⟩
  · have hunit : Operation.SameComposition (Operation.addEdge.ofUnit [edge, source, target])
        (Operation.addEdge.ofUnit [edge', source', target']) := by
      refine (hsame source target source' target').bind fun s? s?' hskipped => ?_
      rw [hskipped.1, hskipped.2]
      exact .ok rfl
    refine iff_of_true (failure?_eq_of_agree hunit) ?_
    exact hmaps.imp_right fun hnone => by simp [hnone.1, hnone.2]
  · have hgiven : edge.givenLabels ≠ [] := by rwa [← Entity.labels_of_ofGroup he]
    have hnodes : IsReadable .source source ∧ IsReadable .target target ↔
        IsReadable .source source' ∧ IsReadable .target target' := by
      rw [isReadable_iff_of_shape_eq hsource, isReadable_iff_of_shape_eq htarget]
    -- The nodes of both are readable or not, and decide what kind of error there can be.
    rw [or_iff_right hgiven]
    by_cases hread : IsReadable .source source ∧ IsReadable .target target
    · exact ((ofUnit_failsUnless he hne source target).1 hread).failure?_eq_iff
        ((ofUnit_failsUnless he' hne source' target').1 (hnodes.1 hread))
    · exact ((ofUnit_failsUnless he hne source target).2 hread).failure?_eq_iff
        ((ofUnit_failsUnless he' hne source' target').2 (mt hnodes.2 hread))

end SameShapes

/-- Errors of shape and label do not show in the shapes alone.

Two edges of the same shapes are refused alike when they are saved exactly if there is no
label, the maps of both edges are legal or those of both are not, or both nodes can be read.
Calls that consist of them are refused alike exactly if there is no label, or a legal map
stands between nodes that do not allow it in both of them or in none.
-/
theorem failures_agree_iff
    {edge source target edge' source' target' : Value} (hedge : edge.shape = edge'.shape)
    (hsource : source.shape = source'.shape) (htarget : target.shape = target'.shape) :
    (failure? (saveEdge [edge, source, target]) = failure? (saveEdge [edge', source', target']) ↔
      edge.givenLabels = [] ∨ legal? edge = legal? edge' ∨
        (IsReadable .source source ∧ IsReadable .target target)) ∧
    ∀ args args', Units.resolve Units.edgeRank args = .ok [[edge, source, target]] →
      Units.resolve Units.edgeRank args' = .ok [[edge', source', target']] →
      (failure? (Operation.addEdge.compose args) = failure? (Operation.addEdge.compose args') ↔
        edge.givenLabels = [] ∨
          ((legal? edge = some true → IsComposable edge source target) ↔
            (legal? edge' = some true → IsComposable edge' source' target'))) := by
  refine ⟨failure?_saveEdge_eq_iff hedge hsource htarget, fun args args' hargs hargs' => ?_⟩
  rw [failure?_compose .addEdge hargs, failure?_compose .addEdge hargs']
  exact failure?_ofUnit_eq_iff hedge hsource htarget

/-- The groups of an edge with the given items, from a node that cannot be read. -/
def fromDistance (items : List Value) : List Value :=
  [.list items, .list [.str "*2"], .list [.str "beta"]]

/-- A missing label is told before anything is asked of the map of the edge, or of the nodes. -/
theorem missing_label_is_told :
    failure? (saveEdge (fromDistance [.map requiredOnly])) =
      failure? (saveEdge (fromDistance [.map [("k", .int 1)]])) ∧
    failure? (Operation.addEdge.compose (fromDistance [.map requiredOnly])) =
      failure? (Operation.addEdge.compose (fromDistance [.map [("k", .int 1)]])) ∧
    failure? (saveEdge (fromDistance [.map requiredOnly])) = some .label := by
  have hshape : (Value.list [.map requiredOnly]).shape = (Value.list [.map [("k", .int 1)]]).shape := by
    decide +kernel
  obtain ⟨hsave, hcompose⟩ := @failures_agree_iff
    (.list [.map requiredOnly]) (.list [.str "*2"]) (.list [.str "beta"])
    (.list [.map [("k", .int 1)]]) (.list [.str "*2"]) (.list [.str "beta"]) hshape rfl rfl
  exact ⟨hsave.2 (Or.inl rfl),
    (hcompose _ _ (by decide +kernel) (by decide +kernel)).2 (Or.inl rfl), by decide +kernel⟩

/-- A node that cannot be read is told to a legal edge, but not to one that is skipped. -/
theorem skipped_edge_hides_distance :
    (fromDistance [.map requiredOnly, .str "next"]).map Value.shape =
      (fromDistance [.map [("k", .int 1)], .str "next"]).map Value.shape ∧
    saveEdge (fromDistance [.map requiredOnly, .str "next"]) =
      .error (.shape (.nodeDistance "*2" .source)) ∧
    saveEdge (fromDistance [.map [("k", .int 1)], .str "next"]) = .ok none ∧
    Operation.addEdge.compose (fromDistance [.map requiredOnly, .str "next"]) =
      .error (.shape (.nodeDistance "*2" .source)) ∧
    Operation.addEdge.compose (fromDistance [.map [("k", .int 1)], .str "next"]) =
      .ok ⟨[], some ⟨.saveEdge, 1, 1⟩⟩ := by
  decide +kernel

end Render
end CypherBatch
