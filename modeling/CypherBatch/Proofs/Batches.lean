import CypherBatch.Compose
import CypherBatch.Proofs.EdgeTokens
import CypherBatch.Proofs.Outcomes
import CypherBatch.Proofs.Units

/-!
# Batches as concatenations

All five operations compose a batch in one way: the arguments are split into
units, each unit gives its own statements, and these are put one behind another.
`Operation.part` is what a unit adds to a batch, and `compose_eq` says that a batch
is gathered from these parts.  `Operation.ofUnit` is what a single unit gives,
written from the renderers alone.  `statements_eq` is the resulting equation for
the statements; with it, a law about batches is a law about how calls are split
into units.
-/

namespace CypherBatch

open Outcome

namespace Batch

/-- The batch of what the units of a call give. -/
def gathered (renderer : Renderer) (parts : List (Option (List Statement))) : Batch where
  statements := (parts.filterMap id).flatten
  skipped? := noteSkipped renderer parts.length (parts.filterMap id).length

/-- Units with one statement or none. -/
theorem gathered_singles (renderer : Renderer) (rendered : List (Option Statement)) :
    gathered renderer (rendered.map (Option.map fun s => [s])) =
      ⟨rendered.filterMap id,
        noteSkipped renderer rendered.length (rendered.filterMap id).length⟩ := by
  have hfound : (rendered.map (Option.map fun s => [s])).filterMap id =
      (rendered.filterMap id).map fun s => [s] := by
    rw [List.filterMap_map, List.map_filterMap]
    rfl
  have hflat : ((rendered.filterMap id).map fun s => [s]).flatten = rendered.filterMap id := by
    rw [← List.flatMap_def, List.flatMap_singleton']
  simp only [gathered, hfound, hflat, List.length_map]

theorem ofNodes_eq (renderer : Renderer) (args : List Value) :
    ofNodes renderer args =
      (ComposeError.liftShape (Units.resolve Units.nodeRank args)).bind fun units =>
        (units.mapM fun unit => (renderer.render unit).map (Option.map fun s => [s])).map
          (gathered renderer) := by
  unfold ofNodes
  cases ComposeError.liftShape (Units.resolve Units.nodeRank args) with
  | error e =>
      rfl
  | ok units =>
      simp only [bind_eq, pure_eq, ok_bind, mapM_map_result, map_map]
      cases hrendered : units.mapM renderer.render with
      | error e =>
          rfl
      | ok rendered =>
          rw [ok_bind, ok_map, gathered_singles, length_of_mapM hrendered]

theorem ofEdges_eq (renderer : Renderer) (mode : EdgeType.Mode) (args : List Value) :
    ofEdges renderer mode args =
      (ComposeError.liftShape (Units.resolve Units.edgeRank args)).bind fun units =>
        (units.mapM (edgeUnit renderer mode)).map (gathered renderer) := by
  unfold ofEdges
  cases ComposeError.liftShape (Units.resolve Units.edgeRank args) with
  | error e =>
      rfl
  | ok units =>
      simp only [bind_eq, pure_eq, ok_bind]
      cases hfound : units.mapM (edgeUnit renderer mode) with
      | error e =>
          rfl
      | ok found =>
          have hlength : found.length = units.length := length_of_mapM hfound
          simp [gathered, hlength]

end Batch

namespace Operation

/-- The rank of one unit of the operation. -/
def unitRank : Operation → Int
  | addNode | getNode => Units.nodeRank
  | addEdge | getEdge | get => Units.edgeRank

/-- The statements of a batch call. -/
def statements (op : Operation) (args : List Value) : Except ComposeError (List Statement) :=
  (op.compose args).map Batch.statements

/-- What the outcome of a renderer stands for; a unit without a statement stands for none. -/
def expanded (mode : EdgeType.Mode) : Option Statement → Except ComposeError (List Statement)
  | none => .ok []
  | some s => EdgeType.expand mode s

/-- The statements of a call that is one unit, from the renderer of the operation. -/
def ofUnit : Operation → List Value → Except ComposeError (List Statement)
  | addNode, unit => (Render.saveNode unit).map Option.toList
  | getNode, unit => (Render.findNode unit).map fun s => [s]
  | addEdge, unit => (Render.saveEdge unit).bind (expanded .strict)
  | getEdge, unit => (Render.findEdge unit).bind (EdgeType.expand .relaxed)
  | get, unit => (Render.findGraph unit).bind (EdgeType.expand .relaxed)

/-- The statements of units, one behind another. -/
def ofUnits (op : Operation) (units : List (List Value)) : Except ComposeError (List Statement) :=
  (units.mapM op.ofUnit).map List.flatten

/-- A single unit gives what it gives among others. -/
@[simp] theorem ofUnits_singleton
    (op : Operation) (unit : List Value) :
    op.ofUnits [unit] = op.ofUnit unit := by
  rw [ofUnits, mapM_cons]
  cases op.ofUnit unit <;> simp

theorem ofUnits_cons
    (op : Operation) (unit : List Value) (units : List (List Value)) :
    op.ofUnits (unit :: units) =
      (op.ofUnit unit).bind fun ss => (op.ofUnits units).map (ss ++ ·) := by
  rw [ofUnits, mapM_cons, ofUnits]
  cases op.ofUnit unit with
  | error e =>
      rfl
  | ok ss =>
      rw [ok_bind, ok_bind, map_map, map_map]
      rfl

theorem ofUnits_append
    (op : Operation) (units units' : List (List Value)) :
    op.ofUnits (units ++ units') =
      (op.ofUnits units).bind fun ss => (op.ofUnits units').map (ss ++ ·) := by
  induction units with
  | nil =>
      have hnil : op.ofUnits [] = .ok [] := by
        rfl
      rw [List.nil_append, hnil, ok_bind]
      cases op.ofUnits units' <;> rfl
  | cons unit units ih =>
      rw [List.cons_append, ofUnits_cons, ofUnits_cons, ih]
      cases op.ofUnit unit with
      | error e =>
          rfl
      | ok ss =>
          cases op.ofUnits units <;> cases op.ofUnits units' <;> simp

/-- The units of a list of items compose what the items do. -/
theorem ofUnits_map
    {α : Type} {op : Operation} {unit : α → List Value}
    {f : α → Except ComposeError (List Statement)} (h : ∀ v, op.ofUnit (unit v) = f v)
    (items : List α) :
    op.ofUnits (items.map unit) = (items.mapM f).map List.flatten := by
  rw [ofUnits, List.mapM_map]
  simp only [Function.comp_def, h]

/-- Lists of units that succeed give their statements one behind another. -/
theorem ofUnits_flatMap_eq_ok
    {α : Type} {op : Operation} {items : List α} {units : α → List (List Value)}
    {f : α → List Statement} (h : ∀ v ∈ items, op.ofUnits (units v) = .ok (f v)) :
    op.ofUnits (items.flatMap units) = .ok (items.flatMap f) := by
  induction items with
  | nil =>
      rfl
  | cons v items ih =>
      rw [List.flatMap_cons, ofUnits_append, h v (by simp), ih fun w hw => h w (by simp [hw])]
      rfl

theorem ofUnits_map_eq_ok
    {α : Type} {op : Operation} {items : List α} {unit : α → List Value}
    {f : α → List Statement} (h : ∀ v ∈ items, op.ofUnit (unit v) = .ok (f v)) :
    op.ofUnits (items.map unit) = .ok (items.flatMap f) := by
  rw [List.map_eq_flatMap]
  exact ofUnits_flatMap_eq_ok fun v hv => by rw [ofUnits_singleton, h v hv]

/-- Units that never give but one statement give as many as they are. -/
theorem length_of_ofUnits
    {op : Operation} (hone : ∀ unit ss, op.ofUnit unit = .ok ss → ss.length = 1)
    {units : List (List Value)} {ss : List Statement} (h : op.ofUnits units = .ok ss) :
    ss.length = units.length := by
  induction units generalizing ss with
  | nil =>
      cases h
      rfl
  | cons unit units ih =>
      rw [ofUnits_cons] at h
      obtain ⟨first, hfirst, h⟩ := bind_eq_ok_iff.1 h
      obtain ⟨rest, hrest, rfl⟩ := map_eq_ok_iff.1 h
      rw [List.length_append, hone unit first hfirst, ih hrest, List.length_cons]
      omega

/-- What one unit adds to a batch of edge statements. -/
theorem map_getD_edgeUnit
    (renderer : Renderer) (mode : EdgeType.Mode) (unit : List Value) :
    (Batch.edgeUnit renderer mode unit).map (fun found => found.getD []) =
      (renderer.render unit).bind (expanded mode) := by
  unfold Batch.edgeUnit
  cases renderer.render unit with
  | error e =>
      rfl
  | ok rendered =>
      cases rendered with
      | none =>
          rfl
      | some s =>
          cases hs : EdgeType.expand mode s <;> simp [expanded, hs]

/-- The statements of the units that have some, one behind another. -/
theorem flatten_filterMap_id
    (found : List (Option (List Statement))) :
    (found.filterMap id).flatten = (found.map fun part => part.getD []).flatten := by
  induction found with
  | nil =>
      rfl
  | cons part rest ih =>
      cases part with
      | none =>
          simpa using ih
      | some ss =>
          simpa using ih

/-- The renderer of the units of the operation. -/
def renderer : Operation → Renderer
  | addNode => .saveNode
  | getNode => .findNode
  | addEdge => .saveEdge
  | getEdge => .findEdge
  | get => .findGraph

/-- What a unit adds to a batch; nothing if it is left out. -/
def part : Operation → List Value → Except ComposeError (Option (List Statement))
  | addNode, unit => (Renderer.saveNode.render unit).map (Option.map fun s => [s])
  | getNode, unit => (Renderer.findNode.render unit).map (Option.map fun s => [s])
  | addEdge, unit => Batch.edgeUnit .saveEdge .strict unit
  | getEdge, unit => Batch.edgeUnit .findEdge .relaxed unit
  | get, unit => Batch.edgeUnit .findGraph .relaxed unit

/-- A batch is gathered from what its units add to it. -/
theorem compose_eq (op : Operation) (args : List Value) :
    op.compose args =
      (ComposeError.liftShape (Units.resolve op.unitRank args)).bind fun units =>
        (units.mapM op.part).map (Batch.gathered op.renderer) := by
  cases op with
  | addNode | getNode =>
      exact Batch.ofNodes_eq _ args
  | addEdge | getEdge | get =>
      exact Batch.ofEdges_eq _ _ args

/-- What a unit adds to a batch is what it gives alone. -/
theorem map_getD_part (op : Operation) (unit : List Value) :
    (op.part unit).map (fun found => found.getD []) = op.ofUnit unit := by
  have hnode (r : Except ComposeError (Option Statement)) :
      (r.map (Option.map fun s => [s])).map (fun found => found.getD []) =
        r.map Option.toList := by
    rw [map_map]
    congr 1
    funext found
    cases found <;> rfl
  have hread (r : Except ComposeError Statement) :
      (r.map some).bind (expanded .relaxed) = r.bind (EdgeType.expand .relaxed) := by
    cases r <;> rfl
  cases op with
  | addNode =>
      exact hnode _
  | getNode =>
      rw [part, hnode, Renderer.render, map_map]
      rfl
  | addEdge =>
      exact map_getD_edgeUnit .saveEdge .strict unit
  | getEdge =>
      exact (map_getD_edgeUnit .findEdge .relaxed unit).trans (hread _)
  | get =>
      exact (map_getD_edgeUnit .findGraph .relaxed unit).trans (hread _)

/-- A batch is the concatenation of what its units give. -/
theorem statements_eq
    (op : Operation) (args : List Value) :
    op.statements args =
      (ComposeError.liftShape (Units.resolve op.unitRank args)).bind op.ofUnits := by
  rw [statements, compose_eq]
  cases ComposeError.liftShape (Units.resolve op.unitRank args) with
  | error e =>
      rfl
  | ok units =>
      have hunit : op.ofUnit = fun unit => (op.part unit).map fun found => found.getD [] :=
        funext fun unit => (map_getD_part op unit).symm
      simp only [ok_bind, ofUnits, hunit, mapM_map_result, map_map, Batch.gathered,
        flatten_filterMap_id]

/-- Arguments that are read as the given units compose what the units compose. -/
theorem statements_of_resolve
    (op : Operation) {args : List Value} {units : List (List Value)}
    (h : Units.resolve op.unitRank args = .ok units) :
    op.statements args = op.ofUnits units := by
  rw [statements_eq, h]
  rfl

/-- A read of nodes has one statement. -/
theorem length_getNode_ofUnit
    (unit : List Value) (ss : List Statement) (h : getNode.ofUnit unit = .ok ss) :
    ss.length = 1 := by
  obtain ⟨s, -, rfl⟩ := map_eq_ok_iff.1 h
  rfl

theorem length_expand_relaxed
    {s : Statement} {ss : List Statement} (h : EdgeType.expand .relaxed s = .ok ss) :
    ss.length = 1 := by
  obtain hsame | ⟨token, -, hsame⟩ := EdgeType.expand_relaxed_cases s
  · rw [hsame] at h
    cases h
    rfl
  · rw [hsame] at h
    cases h
    rfl

/-- A read of edges has one statement. -/
theorem length_getEdge_ofUnit
    (unit : List Value) (ss : List Statement) (h : getEdge.ofUnit unit = .ok ss) :
    ss.length = 1 := by
  obtain ⟨s, -, h⟩ := bind_eq_ok_iff.1 h
  exact length_expand_relaxed h

end Operation
end CypherBatch
