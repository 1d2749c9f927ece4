import CypherBatch.Text.Digit
import CypherBatch.Text.Hex
import CypherBatch.Value

/-!
# Reading JSON

A JSON text denotes a `Value`.  A number without point and exponent is an exact
integer, any other number the nearest floating-point number.  The
fields of an object keep their order; of a repeated key the last value counts,
at the first position.  The names `NaN`, `Infinity` and `-Infinity` are read as
numbers too.  A control character inside a string, and anything but white space
after the value, make the text malformed.  An integer of more digits than
`Text.longestNumber`, half of a surrogate pair without the other half, and a list
or object inside too many others, are refused when they are met, before what
follows is read.

Every reader takes the characters that are left and returns what it read with
the rest.  `readValue` recurses on a bound of twice the number of characters,
which no text exceeds: a step either consumes a character or is followed by one
that does.
-/

namespace CypherBatch
namespace Json

/-- Why a text denotes no value, or a value is given no text. -/
inductive Fault where
  | malformed
  /-- A number is out of range: an integer has too many digits to be read, or a number that is to
  be written is not finite. -/
  | overlong
  /-- Lists and objects are nested too deeply. -/
  | tooDeep
  /-- Bytes or code units make no character. -/
  | undecodable
deriving DecidableEq, Repr

def isGap (c : Char) : Bool :=
  c = ' ' || c = '\t' || c = '\n' || c = '\r'

def skipGap (cs : List Char) : List Char :=
  cs.dropWhile isGap

/-- The character that a one-letter escape stands for. -/
def escapeTarget? (c : Char) : Option Char :=
  if c = '"' ∨ c = '\\' ∨ c = '/' then some c
  else if c = 'b' then some '\x08'
  else if c = 'f' then some '\x0c'
  else if c = 'n' then some '\n'
  else if c = 'r' then some '\r'
  else if c = 't' then some '\t'
  else none

/--
The code units of a string up to its closing quote.  A written character is its
code point, an escape of four digits the number they give.
-/
def readUnits : List Char → Option (List Nat × List Char)
  | [] => none
  | c :: rest =>
      if c = '"' then some ([], rest)
      else if c = '\\' then
        match rest with
        | [] => none
        | e :: rest =>
            if e = 'u' then
              match rest with
              | h1 :: h2 :: h3 :: h4 :: rest => do
                  let unit ← Text.hexQuad? h1 h2 h3 h4
                  let (units, rest) ← readUnits rest
                  return (unit :: units, rest)
              | _ => none
            else do
              let target ← escapeTarget? e
              let (units, rest) ← readUnits rest
              return (target.toNat :: units, rest)
      else if c.toNat < 0x20 then none
      else do
        let (units, rest) ← readUnits rest
        return (c.toNat :: units, rest)

/-- The character of a code point.  Half of a surrogate pair is none. -/
def codeChar? (code : Nat) : Option Char :=
  if code.isValidChar then some (Char.ofNat code) else none

/-- The characters of code units, surrogate pairs joined. -/
def joinUnits? : List Nat → Option (List Char)
  | [] => some []
  | [unit] => (codeChar? unit).map fun c => [c]
  | high :: low :: rest =>
      if 0xD800 ≤ high ∧ high < 0xDC00 ∧ 0xDC00 ≤ low ∧ low < 0xE000 then
        (joinUnits? rest).map fun cs =>
          Char.ofNat (0x10000 + (high - 0xD800) * 0x400 + (low - 0xDC00)) :: cs
      else do
        let c ← codeChar? high
        let cs ← joinUnits? (low :: rest)
        return c :: cs

/-- A string from behind its opening quote. -/
def readString (cs : List Char) : Except Fault (String × List Char) :=
  match readUnits cs with
  | none => .error .malformed
  | some (units, rest) =>
      match joinUnits? units with
      | some cs => .ok (String.ofList cs, rest)
      | none => .error .undecodable

/-- The digits before the point: a zero alone, or a run that begins with another digit. -/
def wholeDigits : List Char → List Char
  | [] => []
  | c :: rest =>
      if c = '0' then [c]
      else if c.isDigit then c :: rest.takeWhile Char.isDigit
      else []

/-- The digits after a point, or none if no digit follows one. -/
def fractionDigits : List Char → List Char
  | '.' :: rest => rest.takeWhile Char.isDigit
  | _ => []

/-- The exponent of a number and how many characters it takes. -/
def readExponent : List Char → Option (Int × Nat)
  | [] => none
  | c :: rest =>
      if c = 'e' ∨ c = 'E' then
        let (negative, signs, rest) :=
          match rest with
          | '-' :: rest => (true, 1, rest)
          | '+' :: rest => (false, 1, rest)
          | rest => (false, 0, rest)
        let digits := rest.takeWhile Char.isDigit
        if digits.isEmpty then none
        else
          let n : Int := Text.digitsValue digits
          some (if negative then -n else n, 1 + signs + digits.length)
      else none

/-- A number without its sign. -/
def readMagnitude (negative : Bool) (cs : List Char) : Except Fault (Value × List Char) :=
  let whole := wholeDigits cs
  if whole.isEmpty then .error .malformed
  else
    let rest := cs.drop whole.length
    let fraction := fractionDigits rest
    let rest := if fraction.isEmpty then rest else rest.drop (fraction.length + 1)
    match readExponent rest with
    | some (exponent, length) =>
        .ok (.float (Double.ofDecimal negative (Text.digitsValue (whole ++ fraction))
          (exponent - fraction.length)), rest.drop length)
    | none =>
        if !fraction.isEmpty then
          .ok (.float (Double.ofDecimal negative (Text.digitsValue (whole ++ fraction))
            (-(fraction.length : Int))), rest)
        else if Text.longestNumber < whole.length then .error .overlong
        else
          let n : Int := Text.digitsValue whole
          .ok (.int (if negative then -n else n), rest)

/-- The rest of a text that begins with the given word. -/
def afterWord? (word : String) (cs : List Char) : Option (List Char) :=
  if word.toList.isPrefixOf cs then some (cs.drop word.length) else none

def words : List (String × Value) :=
  [("null", .null), ("true", .bool true), ("false", .bool false),
   ("NaN", .float Double.nan),
   ("Infinity", .float (Double.ofMagnitude false Double.infinityBits)),
   ("-Infinity", .float (Double.ofMagnitude true Double.infinityBits))]

def readScalar (cs : List Char) : Except Fault (Value × List Char) :=
  match words.findSome? (fun (word, v) => (afterWord? word cs).map fun rest => (v, rest)) with
  | some found => .ok found
  | none =>
      match cs with
      | '-' :: rest => readMagnitude true rest
      | cs => readMagnitude false cs

/-- How many lists and objects may be open at once. -/
def deepest : Nat := 1000

/-- How many may be opened inside a list or object, of which so many could be opened. -/
def deeper : Nat → Except Fault Nat
  | 0 => .error .tooDeep
  | levels + 1 => .ok levels

mutual

def readValue : Nat → Nat → List Char → Except Fault (Value × List Char)
  | 0, _, _ => .error .malformed
  | fuel + 1, levels, cs =>
      match cs with
      | '"' :: rest => do
          let (s, rest) ← readString rest
          return (.str s, rest)
      | '[' :: rest => do
          let levels ← deeper levels
          match skipGap rest with
          | ']' :: rest => return (.list [], rest)
          | rest => do
              let (items, rest) ← readItems fuel levels rest
              return (.list items, rest)
      | '\x7b' :: rest => do
          let levels ← deeper levels
          match skipGap rest with
          | '\x7d' :: rest => return (.map [], rest)
          | rest => do
              let (fields, rest) ← readFields fuel levels rest
              return (.map (PropertyMap.ofPairs fields), rest)
      | cs => readScalar cs

/-- The items of a list up to its closing bracket. -/
def readItems : Nat → Nat → List Char → Except Fault (List Value × List Char)
  | 0, _, _ => .error .malformed
  | fuel + 1, levels, cs => do
      let (v, rest) ← readValue fuel levels cs
      match skipGap rest with
      | ']' :: rest => return ([v], rest)
      | ',' :: rest => do
          let (items, rest) ← readItems fuel levels (skipGap rest)
          return (v :: items, rest)
      | _ => .error .malformed

/-- The fields of an object up to its closing brace. -/
def readFields : Nat → Nat → List Char → Except Fault (List (String × Value) × List Char)
  | 0, _, _ => .error .malformed
  | fuel + 1, levels, cs =>
      match cs with
      | '"' :: rest => do
          let (key, rest) ← readString rest
          match skipGap rest with
          | ':' :: rest => do
              let (v, rest) ← readValue fuel levels (skipGap rest)
              match skipGap rest with
              | '\x7d' :: rest => return ([(key, v)], rest)
              | ',' :: rest => do
                  let (fields, rest) ← readFields fuel levels (skipGap rest)
                  return ((key, v) :: fields, rest)
              | _ => .error .malformed
          | _ => .error .malformed
      | _ => .error .malformed

end

def parse (text : String) : Except Fault Value :=
  let cs := text.toList
  match readValue (2 * cs.length + 2) deepest (skipGap cs) with
  | .ok (v, rest) => if (skipGap rest).isEmpty then .ok v else .error .malformed
  | .error e => .error e

def parse? (text : String) : Option Value :=
  (parse text).toOption

/-- Of a repeated key the last value counts, at the first position. -/
example :
    parse? " \x7b\"b\": 1, \"a\": [], \"b\": true\x7d " =
      some (.map [("b", .bool true), ("a", .list [])]) := by
  decide +kernel

/-- The halves of a surrogate pair are one character, and in the wrong order they are none. -/
example :
    parse? "\"\\ud83d\\ude00\"" = some (.str "😀") ∧
    parse? "\"\\ude00\\ud83d\"" = none := by
  decide +kernel

end Json
end CypherBatch
