/-!
# Floating-point numbers

A 64-bit floating-point number is held by its bit pattern: one sign bit, eleven
bits of exponent and fifty-two bits of fraction.  A finite magnitude is
`mantissa * 2 ^ exponent`.  This module defines:

* the parts of a number, and an integer that orders numbers as their values do;
* rounding of a non-negative ratio to the nearest number, a tie going to the
  even mantissa;
* the numbers that a decimal and an integer denote.

Everything is exact arithmetic on natural numbers.
-/

namespace CypherBatch

/--
A 64-bit floating-point number by its bit pattern.  Equality is equality of
patterns, so `0.0` and `-0.0` differ.
-/
structure Double where
  bits : UInt64
deriving DecidableEq

namespace Double

def isNegative (x : Double) : Bool :=
  Nat.pow 2 63 ≤ x.bits.toNat

def magnitude (x : Double) : Nat :=
  x.bits.toNat % Nat.pow 2 63

/-- The least magnitude pattern of a normal number, which is how many fractions there are. -/
def binade : Nat :=
  Nat.pow 2 52

def infinityBits : Nat :=
  0x7FF * binade

def isFinite (x : Double) : Bool :=
  x.magnitude < infinityBits

def isNaN (x : Double) : Bool :=
  infinityBits < x.magnitude

/-- What stands for no number. -/
def nan : Double :=
  ⟨UInt64.ofNat (infinityBits + binade / 2)⟩

/-- The mantissa of a finite number, with the leading bit of a normal one made explicit. -/
def mantissa (x : Double) : Nat :=
  if x.magnitude < binade then x.magnitude else binade + x.magnitude % binade

/-- The power of two that the mantissa counts. -/
def exponent (x : Double) : Int :=
  (max (x.magnitude / binade) 1 : Nat) - 1075

/-- An integer that orders finite numbers as their values do; both zeros have 0. -/
def order (x : Double) : Int :=
  if x.isNegative then -(x.magnitude : Int) else x.magnitude

/-- The number of a magnitude pattern and a sign. -/
def ofMagnitude (negative : Bool) (magnitude : Nat) : Double :=
  ⟨UInt64.ofNat (if negative then Nat.pow 2 63 + magnitude else magnitude)⟩

/-- The quotient rounded to a natural number, a half going to the even neighbour. -/
def roundDiv (num den : Nat) : Nat :=
  let q := num / den
  let r := num % den
  if 2 * r < den then q
  else if den < 2 * r then q + 1
  else q + q % 2

/--
The exponent at which the mantissa of `num / den` has fifty-three bits, but
never below that of the smallest numbers.
-/
def ratioExponent (num den : Nat) : Int :=
  let e : Int := (Nat.log2 num : Int) - Nat.log2 den - 52
  let e := if num * Nat.pow 2 (-e).toNat < binade * den * Nat.pow 2 e.toNat then e - 1 else e
  max e (-1074)

/-- The pattern nearest to a ratio; one too large for a number is infinity. -/
def magnitudeOfRatio (num den : Nat) : Nat :=
  if num = 0 then 0
  else
    let e := ratioExponent num den
    let m := roundDiv (num * Nat.pow 2 (-e).toNat) (den * Nat.pow 2 e.toNat)
    min ((e + 1074).toNat * binade + m) infinityBits

/--
The number nearest to `digits * 10 ^ exponent`.  Beyond four hundred places no
digit matters: the result is infinity or zero.
-/
def ofDecimal (negative : Bool) (digits : Nat) (exponent : Int) : Double :=
  let places : Int := exponent + Nat.log2 digits / 4
  ofMagnitude negative <|
    if digits = 0 then 0
    else if 400 < places then infinityBits
    else if exponent + Nat.log2 digits < -400 then 0
    else magnitudeOfRatio (digits * Nat.pow 10 exponent.toNat) (Nat.pow 10 (-exponent).toNat)

def ofInt (n : Int) : Double :=
  ofDecimal (n < 0) n.natAbs 0

/-- The integer that a finite number without fraction is. -/
def toInt? (x : Double) : Option Int :=
  if !x.isFinite then none
  else
    let num := x.mantissa * Nat.pow 2 x.exponent.toNat
    let den := Nat.pow 2 (-x.exponent).toNat
    if num % den = 0 then
      some (if x.isNegative then -((num / den : Nat) : Int) else (num / den : Nat))
    else none

/-- One half, thirty, and a hundred thousand million million million. -/
example : ofDecimal false 5 (-1) = ⟨0x3FE0000000000000⟩ ∧ ofInt 30 = ⟨0x403E000000000000⟩ ∧
    ofDecimal false 1 23 = ⟨0x44B52D02C7E14AF6⟩ := by
  decide +kernel

/-- The least number, half of it and less than half of it: the tie goes to zero. -/
example : ofDecimal false 5 (-324) = ⟨1⟩ ∧ ofDecimal false 24 (-325) = ⟨0⟩ := by
  decide +kernel

end Double

end CypherBatch
