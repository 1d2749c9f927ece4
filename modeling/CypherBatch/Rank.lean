import CypherBatch.ShapeError
import CypherBatch.Value.Shape

/-!
# Rank and units

A batch call gives one unit, several units, or several units in one list.  Which
of these it is shows in how deeply the arguments are nested.  A list of entity
parts has rank 0; any other list has the rank of its first item and one more.

The unit of a node statement has rank 0, a list of parts such as
`[prop, label]`.  The unit of an edge statement has rank 1, a list of such lists.
Deeper arguments are spliced, level by level, until they are a list of units.
-/

namespace CypherBatch
namespace Value

/-- The nesting depth above the level of entity parts, read off the first items. -/
def rank : Value → Nat
  | .list (v :: rest) =>
      if isEntityPart v && rest.all isEntityPart then 0 else 1 + rank v
  | _ => 0

/-- The items of a list in the place of the list; any other value as it is. -/
def spliced : Value → List Value
  | .list items => items
  | v => [v]

end Value

/-- Which way of giving units a call uses. -/
inductive Convention where
  | unit
  | units
  | boxed
deriving DecidableEq, Repr

namespace Convention

def name : Convention → String
  | .unit => "unit"
  | .units => "units"
  | .boxed => "boxed"

end Convention

namespace Units

def nodeRank : Int := 0

def edgeRank : Int := 1

/-- Splice the lists among the values into the list of values. -/
def splice (values : List Value) : List Value :=
  values.flatMap Value.spliced

/-- Splice so many times. -/
def spliceTimes : Nat → List Value → List Value
  | 0, values => values
  | n + 1, values => spliceTimes n (splice values)

/-- Splice values of the given rank until the rank is `n`; a lower rank is left as it is. -/
def flattenFrom (rank : Nat) (n : Int) (values : List Value) : List Value :=
  spliceTimes (rank - n).toNat values

/-- Splice a list of values until its rank is `n`. -/
def flattenTo (n : Int) (values : List Value) : List Value :=
  flattenFrom (Value.list values).rank n values

/-- The convention of a call whose unit has the given rank. -/
def convention (unitRank : Int) (args : List Value) : Except ShapeError Convention :=
  let rank := (Value.list args).rank
  if (rank : Int) < unitRank then .error (.shallow rank unitRank)
  else if (rank : Int) = unitRank then .ok .unit
  else if (rank : Int) = unitRank + 1 then .ok .units
  else .ok .boxed

/-- The units of a call, one argument list for each, in the order given. -/
def resolve (unitRank : Int) (args : List Value) : Except ShapeError (List (List Value)) :=
  match convention unitRank args with
  | .error e => .error e
  | .ok .unit => .ok [args]
  | .ok _ => .ok ((flattenTo (unitRank + 1) args).map Value.spliced)

end Units
end CypherBatch
