import CypherBatch.ShapeError

/-!
# Errors of composition

Composing a batch fails when a unit cannot be read, when an edge to be created
has no type, or when a unit has more or fewer groups than its statement takes.
-/

namespace CypherBatch

/-- Why an edge has no type where one is needed. -/
inductive LabelError where
  /-- The edge group of a creation names no label. -/
  | newEdge
  /-- The text of a statement that is to have one type for each copy names none. -/
  | statement
deriving DecidableEq, Repr

namespace LabelError

def message : LabelError → String
  | newEdge => "Edges (relationships) must have label(s) to be created"
  | statement => "Edges (relationships) must have label(s)"

end LabelError

/-- Why a batch cannot be composed. -/
inductive ComposeError where
  | shape (cause : ShapeError)
  | label (cause : LabelError)
  /-- A unit has a number of groups that its statement does not take. -/
  | groupCount (given : Nat)
deriving DecidableEq

namespace ComposeError

/-- An outcome that fails for its shape, as an outcome of composition. -/
def liftShape {α : Type} : Except ShapeError α → Except ComposeError α
  | .ok x => .ok x
  | .error e => .error (.shape e)

end ComposeError
end CypherBatch
