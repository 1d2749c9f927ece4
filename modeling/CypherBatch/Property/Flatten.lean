import CypherBatch.Text.Split
import CypherBatch.Value

/-!
# Flat property maps

A graph stores no maps inside maps.  `flatten` writes a nested map as one level
of keys, the keys on a path joined by a separator; `unflatten` splits the keys
again and rebuilds the nesting.  Lists are values like any other.
-/

namespace CypherBatch
namespace PropertyMap

def separator : String := "__"

mutual

/-- The fields of a nested map as one level of fields, added to those already there. -/
def flattenInto (sep : String) : PropertyMap → List (String × Value) → PropertyMap
  | acc, [] => acc
  | acc, (key, value) :: rest => flattenInto sep (flattenField sep acc key value) rest

/-- One field, or the fields of the map that it holds, added to those already there. -/
def flattenField (sep : String) (acc : PropertyMap) (key : String) : Value → PropertyMap
  | .map fields =>
      insertAll acc ((flattenInto sep [] fields).map fun field => (key ++ sep ++ field.1, field.2))
  | value => insert key value acc

end

/-- A nested map as one level of joined keys. -/
def flatten (sep : String) (m : PropertyMap) : PropertyMap :=
  flattenInto sep [] m

/-- The map stored under a key; anything else there counts as an empty one. -/
def branch (m : PropertyMap) (key : String) : PropertyMap :=
  match get? m key with
  | some (.map fields) => fields
  | _ => []

/-- Store a value at the end of a path, making maps along it where there are none. -/
def insertPath (value : Value) : List String → PropertyMap → PropertyMap
  | [], m => m
  | [key], m => insert key value m
  | key :: next :: path, m => insert key (.map (insertPath value (next :: path) (branch m key))) m

/-- Rebuild the nesting of joined keys, one key after another. -/
def unflatten (sep : String) (m : PropertyMap) : PropertyMap :=
  m.foldl (fun acc field => insertPath field.2 (Text.parts sep field.1) acc) []

/-- Rebuild the nesting; no key can be split at an empty separator. -/
def unflatten? (sep : String) (m : PropertyMap) : Option PropertyMap :=
  if sep = "" ∧ m ≠ [] then none else some (unflatten sep m)

/-- The fields of a map inside a map are joined to its key, and split off again. -/
example :
    flatten "__" [("slack", .map [("id", .int 1), ("t", .map [("z", .null)])]), ("n", .int 2)] =
      [("slack__id", .int 1), ("slack__t__z", .null), ("n", .int 2)] ∧
    unflatten "__" [("slack__id", .int 1), ("n", .int 2), ("slack__t", .null)] =
      [("slack", .map [("id", .int 1), ("t", .null)]), ("n", .int 2)] := by
  decide +kernel

end PropertyMap
end CypherBatch
