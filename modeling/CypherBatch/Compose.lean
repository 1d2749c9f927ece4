import CypherBatch.EdgeType
import CypherBatch.Rank
import CypherBatch.Renderer

/-!
# Batches

A batch call gives any number of units.  Its statements are those of its units,
in the order given, and the copies of an edge statement for its types stand where
the statement stood.  A unit without a statement is left out, and the batch says
how many were; the first unit that fails makes the whole batch fail.
-/

namespace CypherBatch

/-- Units of a batch that had no statement. -/
structure Skipped where
  renderer : Renderer
  count : Nat
  total : Nat
deriving DecidableEq

namespace Skipped

def message (s : Skipped) : String :=
  s.renderer.name ++ ": skipped " ++ Decimal.naturalText s.count ++ " of " ++
    Decimal.naturalText s.total ++ " unit(s) with illegal property maps"

end Skipped

/-- The statements of a batch call, with a note of the units left out. -/
structure Batch where
  statements : List Statement
  skipped? : Option Skipped
deriving DecidableEq

namespace Batch

/-- A note of the units left out, unless there are none. -/
def noteSkipped (renderer : Renderer) (total rendered : Nat) : Option Skipped :=
  if rendered < total then some ⟨renderer, total - rendered, total⟩ else none

def ofNodes (renderer : Renderer) (args : List Value) : Except ComposeError Batch := do
  let units ← ComposeError.liftShape (Units.resolve Units.nodeRank args)
  let rendered ← units.mapM renderer.render
  let statements := rendered.filterMap id
  return ⟨statements, noteSkipped renderer units.length statements.length⟩

/-- The statements of one unit of an edge batch; nothing if it has none. -/
def edgeUnit (renderer : Renderer) (mode : EdgeType.Mode) (unit : List Value) :
    Except ComposeError (Option (List Statement)) := do
  match ← renderer.render unit with
  | none => return none
  | some s => return some (← EdgeType.expand mode s)

/-- A batch of edge statements or generic reads. -/
def ofEdges (renderer : Renderer) (mode : EdgeType.Mode) (args : List Value) :
    Except ComposeError Batch := do
  let units ← ComposeError.liftShape (Units.resolve Units.edgeRank args)
  let rendered ← units.mapM (edgeUnit renderer mode)
  let expanded := rendered.filterMap id
  return ⟨expanded.flatten, noteSkipped renderer units.length expanded.length⟩

end Batch

/-- A batch operation on the graph. -/
inductive Operation where
  | addNode
  | getNode
  | addEdge
  | getEdge
  | get
deriving DecidableEq, Repr

namespace Operation

/-- The batch that an operation composes.  Only creations have one statement for each type. -/
def compose : Operation → List Value → Except ComposeError Batch
  | .addNode, args => Batch.ofNodes .saveNode args
  | .getNode, args => Batch.ofNodes .findNode args
  | .addEdge, args => Batch.ofEdges .saveEdge .strict args
  | .getEdge, args => Batch.ofEdges .findEdge .relaxed args
  | .get, args => Batch.ofEdges .findGraph .relaxed args

end Operation
end CypherBatch
