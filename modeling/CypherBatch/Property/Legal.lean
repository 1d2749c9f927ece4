import CypherBatch.Value.Shown

/-!
# Legal property maps

A property map is legal for creation when it is a map that is not empty, has the
four identity and audit fields, and holds nothing but null, scalars and lists of
scalars.  `Illegality.of` gives the first reason against a value.
-/

namespace CypherBatch

def requiredFields : List String :=
  ["hash_by", "hash", "updated_by", "updated_when"]

namespace Value

/-- Is this a string, a number or a truth value? -/
def isScalar : Value → Bool
  | .bool _ | .int _ | .float _ | .str _ => true
  | _ => false

/-- Is this a scalar or a list of scalars? -/
def isProperty : Value → Bool
  | .list items => items.all isScalar
  | v => v.isScalar

/-- Is this null or the empty string? -/
def isUnset : Value → Bool
  | .null => true
  | .str s => s = ""
  | _ => false

end Value

/-- Why a value cannot be the property map of a new entity. -/
inductive Illegality where
  | notMap (kind : String)
  | empty
  | missing (fields : List String)
  | notScalar (keys : List String)
deriving DecidableEq

namespace Illegality

def message : Illegality → String
  | notMap kind => "expected a property map, got " ++ kind
  | empty => "property map is empty"
  | missing fields => "missing required field(s): " ++ String.intercalate ", " fields
  | notScalar keys => "non-scalar value(s) for: " ++ String.intercalate ", " keys

/-- The required fields that a map lacks or leaves unset. -/
def missingFields (m : PropertyMap) : List String :=
  requiredFields.filter fun field =>
    match PropertyMap.get? m field with
    | none => true
    | some v => v.isUnset

/-- The keys under which a map holds something that cannot be stored, in order. -/
def badKeys (m : PropertyMap) : List String :=
  ((m.filter fun field => field.2 ≠ .null && !field.2.isProperty).map (·.1)).mergeSort (· ≤ ·)

def ofMap? (m : PropertyMap) : Option Illegality :=
  if m.isEmpty then some .empty
  else if missingFields m ≠ [] then some (.missing (missingFields m))
  else if badKeys m ≠ [] then some (.notScalar (badKeys m))
  else none

def of? : Value → Option Illegality
  | .map fields => ofMap? fields
  | v => some (.notMap v.kindName)

end Illegality

namespace Value

/-- Can a new entity have this as its property map? -/
def isLegal (v : Value) : Bool :=
  (Illegality.of? v).isNone

end Value
end CypherBatch
