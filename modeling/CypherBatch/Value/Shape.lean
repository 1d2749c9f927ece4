import CypherBatch.Text.Blank
import CypherBatch.Value

/-!
# Shapes of arguments

A caller describes an entity loosely, by a property map, a label, a list of
labels or a distance, in any order.  This module says which role a value can
play without looking at its position:

* a map is a property map;
* a string that begins with a star is a distance, such as `*0..2`;
* any other string is a label, and so is a list of such strings.

The tests on lists differ in strength on purpose.  `isLabel` wants every item to
be a label.  `isMultiLabel` only looks at the first of two or more items; it
serves to tell the parts of one entity from a list of entities.
-/

namespace CypherBatch
namespace Value

/-- Does the text begin with the star of a distance? -/
def isDistanceText (s : String) : Bool :=
  s.toList.head? = some '*'

def isDistance : Value → Bool
  | .str s => isDistanceText s
  | _ => false

/-- The text of a distance without white space at its ends; empty for any other value. -/
def distanceText : Value → String
  | .str s => if isDistanceText s then Text.trim s else ""
  | _ => ""

/-- The name that a string gives as a label. -/
def labelName? : Value → Option String
  | .str s => if isDistanceText s then none else some s
  | _ => none

/-- The names of a list of labels; an item that is no label makes it none. -/
def labelNamesOf? : List Value → Option (List String)
  | [] => some []
  | v :: rest => do
      let name ← labelName? v
      let names ← labelNamesOf? rest
      return name :: names

/-- The names that a value gives as a label: one for a string, one or more for a list. -/
def labelNames? : Value → Option (List String)
  | .list [] => none
  | .list (v :: rest) => labelNamesOf? (v :: rest)
  | v => (labelName? v).map fun name => [name]

/-- Is this a label, or a list of one or more labels? -/
def isLabel (v : Value) : Bool :=
  v.labelNames?.isSome

/-- Is this a list of two or more items that begins with a string? -/
def isMultiLabel : Value → Bool
  | .list (.str _ :: _ :: _) => true
  | _ => false

/-- Can the value stand directly inside the description of one entity? -/
def isEntityPart : Value → Bool
  | .map _ => true
  | .str _ => true
  | v => v.isMultiLabel

/-- Is this a list of nothing but entity parts? -/
def isEntityParts : Value → Bool
  | .list items => items.all isEntityPart
  | _ => false

end Value
end CypherBatch
