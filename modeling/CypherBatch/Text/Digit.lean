import CypherBatch.Text.Blank

/-!
# Decimal digits

The decimal digits of a script are ten characters in a row, zero first (Unicode
general category Nd).  The table holds the zeros above ASCII.  A whole number
may be written with the digits of any script, even of several, with white space
around it, a sign in front, and single underscores between the digits.
-/

namespace CypherBatch
namespace Text

def zeros : List Nat := [
  0x660, 0x6F0, 0x7C0, 0x966, 0x9E6, 0xA66, 0xAE6, 0xB66, 0xBE6, 0xC66, 0xCE6, 0xD66, 0xDE6,
  0xE50, 0xED0, 0xF20, 0x1040, 0x1090, 0x17E0, 0x1810, 0x1946, 0x19D0, 0x1A80, 0x1A90,
  0x1B50, 0x1BB0, 0x1C40, 0x1C50, 0xA620, 0xA8D0, 0xA900, 0xA9D0, 0xA9F0, 0xAA50, 0xABF0,
  0xFF10, 0x104A0, 0x10D30, 0x11066, 0x110F0, 0x11136, 0x111D0, 0x112F0, 0x11450, 0x114D0,
  0x11650, 0x116C0, 0x11730, 0x118E0, 0x11950, 0x11C50, 0x11D50, 0x11DA0, 0x16A60, 0x16AC0,
  0x16B50, 0x1D7CE, 0x1D7D8, 0x1D7E2, 0x1D7EC, 0x1D7F6, 0x1E140, 0x1E2F0, 0x1E950, 0x1FBF0]

/-- The value of a decimal digit of any script. -/
def digitValue? (c : Char) : Option Nat :=
  if c.isDigit then some (c.toNat - 48)
  else if c.toNat < 128 then none
  else (zeros.find? fun low => low ≤ c.toNat ∧ c.toNat < low + 10).map fun low => c.toNat - low

def isDecimal (c : Char) : Bool :=
  (digitValue? c).isSome

/-- The value of a run of ASCII digits. -/
def digitsValue (cs : List Char) : Nat :=
  cs.foldl (fun n c => n * 10 + (c.toNat - 48)) 0

/-- The text without underscores, if each stands alone inside the text. -/
def dropUnderscores? (cs : List Char) : Option (List Char) :=
  let doubled := (cs.zip cs.tail).any fun (a, b) => a = '_' && b = '_'
  if cs.head? = some '_' ∨ cs.getLast? = some '_' ∨ doubled then none
  else some (cs.filter (· ≠ '_'))

/-- The sign of a number, minus or not, and the text behind it. -/
def readSign : List Char → Bool × List Char
  | '-' :: rest => (true, rest)
  | '+' :: rest => (false, rest)
  | cs => (false, cs)

/-- How many digits a whole number may have. -/
def longestNumber : Nat := 4300

def wholeNumber? (s : String) : Option Int := do
  let (negative, body) := readSign (trim s).toList
  let digits ← dropUnderscores? body
  let values ← digits.mapM digitValue?
  if values.isEmpty || longestNumber < values.length then none
  else
    let n : Nat := values.foldl (fun n value => n * 10 + value) 0
    return if negative then -(n : Int) else n

/-- A sign, an underscore, and the digits of two scripts. -/
example :
    wholeNumber? " -1_6 " = some (-16) ∧ wholeNumber? "\u0663\uff11" = some 31 ∧
    wholeNumber? "1__6" = none ∧ wholeNumber? "+" = none := by
  decide +kernel

end Text
end CypherBatch
