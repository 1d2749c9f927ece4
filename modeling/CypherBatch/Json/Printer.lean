import CypherBatch.Decimal.Text
import CypherBatch.Text.Hex
import CypherBatch.Value

/-!
# Writing JSON

A value is written without white space and in ASCII: a character outside the
printable ASCII characters is escaped by its UTF-16 units, in four lower-case
hexadecimal digits each.  Numbers that are not finite are written by the names
under which they are read; strict JSON has no text for them.

The canonical text of a value has the fields of every map in the order of the
code points of their keys.
-/

namespace CypherBatch
namespace Json

/-- A code unit as an escape of four digits. -/
def unitEscape (unit : Nat) : List Char :=
  '\\' :: 'u' :: Text.hexDigits 4 unit

/-- A character as it stands in a string. -/
def escapedChar (c : Char) : List Char :=
  if c = '"' ∨ c = '\\' then ['\\', c]
  else if c = '\n' then ['\\', 'n']
  else if c = '\r' then ['\\', 'r']
  else if c = '\t' then ['\\', 't']
  else if c = '\x0c' then ['\\', 'f']
  else if c = '\x08' then ['\\', 'b']
  else if 32 ≤ c.toNat ∧ c.toNat < 127 then [c]
  else if c.toNat < 0x10000 then unitEscape c.toNat
  else
    unitEscape (0xD800 + (c.toNat - 0x10000) / 0x400) ++
      unitEscape (0xDC00 + (c.toNat - 0x10000) % 0x400)

def stringChars (s : String) : List Char :=
  '"' :: s.toList.flatMap escapedChar ++ ['"']

/-- A floating-point number; one that is not finite has a name. -/
def floatText (x : Double) : String :=
  if x.isFinite then x.text
  else if x.isNaN then "NaN"
  else if x.isNegative then "-Infinity"
  else "Infinity"

mutual

/-- The characters of a value.  Every integer is written, also one too long to be read again. -/
def chars : Value → List Char
  | .null => "null".toList
  | .bool true => "true".toList
  | .bool false => "false".toList
  | .int n => (Decimal.integerText n).toList
  | .float x => (floatText x).toList
  | .str s => stringChars s
  | .list items => '[' :: (itemsChars items ++ [']'])
  | .map fields => '\x7b' :: (fieldsChars fields ++ ['\x7d'])

/-- The items of a list, separated by commas. -/
def itemsChars : List Value → List Char
  | [] => []
  | [v] => chars v
  | v :: w :: rest => chars v ++ ',' :: itemsChars (w :: rest)

/-- The fields of a map, separated by commas. -/
def fieldsChars : List (String × Value) → List Char
  | [] => []
  | [(k, v)] => stringChars k ++ ':' :: chars v
  | (k, v) :: field :: rest => stringChars k ++ ':' :: (chars v ++ ',' :: fieldsChars (field :: rest))

end

/-- The text of a value, fields in the order of the map. -/
def print (v : Value) : String :=
  String.ofList (chars v)

/-- Numbers that are not finite, beside one that is. -/
example :
    print (.list [.float Double.nan, .float (Double.ofDecimal true 1 999), .float (Double.ofInt 2)]) =
      "[NaN,-Infinity,2.0]" := by
  decide +kernel

mutual

/-- Can a value be written in strict JSON, where every number is finite? -/
def isStrict : Value → Bool
  | .float x => x.isFinite
  | .list items => areStrict items
  | .map fields => haveStrict fields
  | _ => true

/-- Can each of these items be written in strict JSON? -/
def areStrict : List Value → Bool
  | [] => true
  | v :: rest => isStrict v && areStrict rest

/-- Can the values in these fields be written in strict JSON? -/
def haveStrict : List (String × Value) → Bool
  | [] => true
  | (_, v) :: rest => isStrict v && haveStrict rest

end

/-- Is the key of the first field not after that of the second? -/
def keyLe (a b : String × Value) : Bool :=
  a.1 ≤ b.1

mutual

/-- The value with the fields of every map in the order of their keys. -/
def sorted : Value → Value
  | .list items => .list (sortedItems items)
  | .map fields => .map ((sortedFields fields).mergeSort keyLe)
  | v => v

/-- The items of a list, each with its maps in order. -/
def sortedItems : List Value → List Value
  | [] => []
  | v :: rest => sorted v :: sortedItems rest

/-- The fields of a map, each with the maps inside its value in order. -/
def sortedFields : List (String × Value) → List (String × Value)
  | [] => []
  | (k, v) :: rest => (k, sorted v) :: sortedFields rest

end

/-- The text of a value with the keys of every map in order. -/
def canonical (v : Value) : String :=
  print (sorted v)

end Json
end CypherBatch
