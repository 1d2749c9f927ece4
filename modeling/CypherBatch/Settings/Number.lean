import CypherBatch.Double
import CypherBatch.Text.Digit

/-!
# Numbers in settings

Settings from the environment are text.  A number may have white space around
it, a sign, and single underscores between its digits.

An integer may have zeros in front, with any underscores among them, and end in
a point and one or more zeros.  Once its sign and these are taken off, the rest
is read strictly.  A number with a fraction is read strictly at first, and with
its underscores taken out if that fails; then it may have no white space.
-/

namespace CypherBatch
namespace Settings

open Text (digitsValue dropUnderscores? longestNumber readSign)

/-! ## Integers -/

/-- The natural number of digits that do not begin with a needless zero. -/
def strictNatural? : List Char → Option Nat
  | [] => none
  | ['0'] => some 0
  | c :: rest =>
      if c ≠ '0' && (c :: rest).all Char.isDigit then some (digitsValue (c :: rest)) else none

/-- The integer of such digits, behind a minus sign or not. -/
def strictInteger? : List Char → Option Int
  | '-' :: digits => (strictNatural? digits).map fun n => -(n : Int)
  | digits => (strictNatural? digits).map fun n => (n : Int)

/--
What is left behind a zero when more zeros and underscores are dropped.  The
character in front is kept when only a fraction or nothing at all follows.
-/
def behindZero (front : Char) : List Char → Option (List Char)
  | [] => some [front]
  | c :: rest =>
      if c = '0' ∨ c = '_' then behindZero c rest
      else if c = '.' then some (front :: c :: rest)
      else if c = '-' ∨ c.isDigit then some (c :: rest)
      else none

/-- The text without zeros in front; it must begin with a digit. -/
def dropZeros? : List Char → Option (List Char)
  | [] => none
  | c :: rest =>
      if c = '0' then behindZero c rest
      else if c.isDigit then some (c :: rest)
      else none

/-- The text without a point and one or more zeros at its end. -/
def dropZeroFraction (cs : List Char) : List Char :=
  match cs.dropWhile (· ≠ '.') with
  | _ :: d :: digits =>
      if (d :: digits).all (· = '0') then cs.takeWhile (· ≠ '.') else cs
  | _ => cs

/-- The digits of an integer without its sign, put into strict form. -/
def normalDigits? (cs : List Char) : Option (List Char) :=
  (dropZeros? cs).map fun digits =>
    let whole := dropZeroFraction digits
    (dropUnderscores? whole).getD whole

def readInteger? (s : String) : Option Int :=
  let (negative, body) := readSign (Text.trimSpace s.toList)
  match normalDigits? body with
  | none => none
  | some digits => strictInteger? (if negative then '-' :: digits else digits)

/-- Does the text begin with an integer that is too long to be read? -/
def isOverlong (s : String) : Bool :=
  let cs := s.toList
  let digits := if cs.head? = some '-' then cs.drop 1 else cs
  let sign := cs.length - digits.length
  match digits with
  | [] => false
  | c :: _ => c ≠ '0' && longestNumber < sign + (digits.takeWhile Char.isDigit).length

/-! ## Numbers with a fraction -/

/-- The exponent at the end of a number; no text at all is the exponent zero. -/
def readExponent? : List Char → Option Int
  | [] => some 0
  | c :: rest =>
      if c = 'e' ∨ c = 'E' then
        let (negative, digits) := readSign rest
        if digits.isEmpty || !digits.all Char.isDigit then none
        else some (if negative then -(digitsValue digits : Int) else digitsValue digits)
      else none

/-- Is the text a word, in any letter case? -/
def isWordText (word : String) (cs : List Char) : Bool :=
  cs.map Char.toLower = word.toList

/-- The number that a text without a sign denotes. -/
def readMagnitude? (negative : Bool) (cs : List Char) : Option Double :=
  if isWordText "inf" cs || isWordText "infinity" cs then
    some (Double.ofMagnitude negative Double.infinityBits)
  else if isWordText "nan" cs then some Double.nan
  else
    let whole := cs.takeWhile Char.isDigit
    let rest := cs.dropWhile Char.isDigit
    let (fraction, rest) :=
      match rest with
      | '.' :: rest => (rest.takeWhile Char.isDigit, rest.dropWhile Char.isDigit)
      | rest => ([], rest)
    if whole.isEmpty && fraction.isEmpty then none
    else
      (readExponent? rest).map fun exponent =>
        Double.ofDecimal negative (digitsValue (whole ++ fraction)) (exponent - fraction.length)

/-- The number that a text without underscores denotes. -/
def readPlainNumber? (cs : List Char) : Option Double :=
  let (negative, body) := readSign cs
  readMagnitude? negative body

def readNumber? (s : String) : Option Double :=
  match readPlainNumber? (Text.trimSpace s.toList) with
  | some x => some x
  | none => (dropUnderscores? s.toList).bind readPlainNumber?

/-- Underscores, zeros in front, a point with zeros and one without. -/
example :
    readInteger? " 1_6.0 " = some 16 ∧ readInteger? "-00__1" = some (-1) ∧
    readInteger? "0_-1" = some (-1) ∧ readInteger? "5." = none := by
  decide +kernel

/-- An exponent, a bare point, and underscores with and without white space. -/
example :
    readNumber? "1e2" = some (Double.ofInt 100) ∧ readNumber? "." = none ∧
    readNumber? "1_0" = some (Double.ofInt 10) ∧ readNumber? "1_0 " = none := by
  decide +kernel

end Settings
end CypherBatch
