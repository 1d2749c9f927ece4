import CypherBatch.Decimal.Text
import CypherBatch.Text.Quoted
import CypherBatch.Value

/-!
# Values in messages

Messages quote the value they are about: strings between quotes, lists in
brackets, maps in braces, items separated by a comma and a space.
-/

namespace CypherBatch
namespace Value

def openBrace : String := "\x7b"

def closeBrace : String := "\x7d"

mutual

/-- The text of a value in a message.  Every integer is shown, whatever number of digits it has. -/
def shown : Value → String
  | .null => "None"
  | .bool true => "True"
  | .bool false => "False"
  | .int n => Decimal.integerText n
  | .float x => x.text
  | .str s => Text.quoted s
  | .list items => "[" ++ String.intercalate ", " (shownItems items) ++ "]"
  | .map fields => openBrace ++ String.intercalate ", " (shownFields fields) ++ closeBrace

def shownItems : List Value → List String
  | [] => []
  | v :: rest => shown v :: shownItems rest

def shownFields : List (String × Value) → List String
  | [] => []
  | (k, v) :: rest => (Text.quoted k ++ ": " ++ shown v) :: shownFields rest

end

def shownTexts (items : List String) : String :=
  shown (.list (items.map .str))

/-- What kind of value this is, in messages. -/
def kindName : Value → String
  | .null => "NoneType"
  | .bool _ => "bool"
  | .int _ => "int"
  | .float _ => "float"
  | .str _ => "str"
  | .list _ => "list"
  | .map _ => "dict"

end Value
end CypherBatch
