import CypherBatch.Decimal.Shortest

/-!
# The text of numbers

Integers are written in decimal.  A floating-point number is written with its
shortest digits; the layout record `floats` says where positional notation ends
and how an exponent looks.
-/

namespace CypherBatch

namespace Decimal

def naturalText (n : Nat) : String :=
  String.ofList (Nat.toDigits 10 n)

def paddedText (width n : Nat) : String :=
  let digits := Nat.toDigits 10 n
  String.ofList (List.replicate (width - digits.length) '0' ++ digits)

/-- The digits of an integer, with a minus sign if it is negative. -/
def integerText : Int → String
  | .ofNat n => naturalText n
  | .negSucc n => "-" ++ naturalText (n + 1)

/-- How a floating-point number is laid out. -/
structure Layout where
  /-- The least exponent of the leading digit that is written positionally. -/
  plainFrom : Int
  /-- The first exponent of the leading digit that is not written positionally. -/
  plainBelow : Int
  /-- The least number of exponent digits. -/
  exponentWidth : Nat

/--
Numbers are positional from a ten-thousandth up to ten thousand million
million; a whole number keeps its `.0`, and an exponent has a sign and at least
two digits.
-/
def floats : Layout where
  plainFrom := -4
  plainBelow := 16
  exponentWidth := 2

/-- The text of a decimal whose leading digit has the given exponent, in positional notation. -/
def plainText (digits : List Char) (leading : Int) : List Char :=
  if leading < 0 then
    '0' :: '.' :: (List.replicate (-leading - 1).toNat '0' ++ digits)
  else
    let whole := (leading + 1).toNat
    if digits.length ≤ whole then
      digits ++ List.replicate (whole - digits.length) '0' ++ ['.', '0']
    else
      digits.take whole ++ '.' :: digits.drop whole

def scientificText (width : Nat) (digits : List Char) (leading : Int) : List Char :=
  let mantissa :=
    match digits with
    | [] => []
    | [d] => [d]
    | d :: rest => d :: '.' :: rest
  let sign := if leading < 0 then '-' else '+'
  mantissa ++ 'e' :: sign :: (paddedText width leading.natAbs).toList

namespace Layout

def decimalText (layout : Layout) (d : Decimal) : List Char :=
  let digits := Nat.toDigits 10 d.digits
  let leading : Int := d.exponent + digits.length - 1
  if d.digits = 0 then ['0', '.', '0']
  else if layout.plainFrom ≤ leading ∧ leading < layout.plainBelow then
    plainText digits leading
  else scientificText layout.exponentWidth digits leading

end Layout

end Decimal

namespace Double

/-- The text of a number: its shortest digits, with a minus sign if the sign bit is set. -/
def text (x : Double) : String :=
  let sign := if x.isNegative then "-" else ""
  if x.isFinite then
    sign ++ String.ofList (Decimal.floats.decimalText (Decimal.shortest x))
  else if x.magnitude = infinityBits then sign ++ "inf"
  else "nan"

/-- Both ends of positional notation, the sign of zero and a whole number. -/
example :
    (ofDecimal false 1 15).text = "1000000000000000.0" ∧
    (ofDecimal false 1 16).text = "1e+16" ∧
    (ofDecimal false 1 (-4)).text = "0.0001" ∧
    (ofDecimal true 15 (-6)).text = "-1.5e-05" ∧
    (ofDecimal true 0 0).text = "-0.0" ∧
    (ofInt 30).text = "30.0" := by
  decide +kernel

end Double

end CypherBatch
