import CypherBatch.Double

/-!
# Shortest decimals

A finite number is written with the fewest significant digits that still read
back as it.  The reals that read back as `m * 2 ^ q` are an interval around it,
its ends included when `m` is even.  For one, two, up to seventeen digits the
two decimals next to the number on that grid are tested against the interval in
exact arithmetic; the first grid with a hit decides, and of two hits the nearer.
-/

namespace CypherBatch

/-- The non-negative decimal `digits * 10 ^ exponent`. -/
structure Decimal where
  digits : Nat
  exponent : Int
deriving DecidableEq

namespace Decimal

/-- How many decimal digits a natural number has; zero has none. -/
def digitCount (n : Nat) : Nat :=
  if n = 0 then 0 else (Nat.toDigits 10 n).length

/-- Drop trailing zeros, at most as many as `fuel`. -/
def dropZeros : Nat → Decimal → Decimal
  | 0, d => d
  | fuel + 1, d =>
      if d.digits ≠ 0 ∧ d.digits % 10 = 0 then dropZeros fuel ⟨d.digits / 10, d.exponent + 1⟩ else d

/--
A positive real number `value / scale` between the ends of the interval that
reads back as it, all over one denominator.
-/
structure Interval where
  low : Nat
  value : Nat
  high : Nat
  scale : Nat
  closed : Bool

namespace Interval

/-- The interval of a finite number other than zero. -/
def ofDouble (x : Double) : Interval :=
  let m := x.mantissa
  let q := x.exponent - 2
  let up := Nat.pow 2 q.toNat
  let below := if m = Double.binade ∧ -1074 < x.exponent then 1 else 2
  { low := (4 * m - below) * up
    value := 4 * m * up
    high := (4 * m + 2) * up
    scale := Nat.pow 2 (-q).toNat
    closed := m % 2 = 0 }

def contains (i : Interval) (d : Decimal) : Bool :=
  let num := d.digits * Nat.pow 10 d.exponent.toNat * i.scale
  let den := Nat.pow 10 (-d.exponent).toNat
  if i.closed then i.low * den ≤ num ∧ num ≤ i.high * den
  else i.low * den < num ∧ num < i.high * den

/-- Twice the distance from the value to the upper of two grid neighbours is less than the gap. -/
def nearerAbove (i : Interval) (d : Decimal) : Bool :=
  let num := (2 * d.digits + 1) * Nat.pow 10 d.exponent.toNat * i.scale
  let den := Nat.pow 10 (-d.exponent).toNat
  num < 2 * i.value * den ∨ (num = 2 * i.value * den ∧ d.digits % 2 = 1)

/-- The number of digits before the point; for a value below one, minus the zeros after it. -/
def leadingPlace (i : Interval) : Int :=
  let whole := i.value / i.scale
  if whole ≠ 0 then digitCount whole
  else 1 - (digitCount ((i.scale - 1) / i.value) : Int)

/-- The greatest decimal not above the value on the grid of the given exponent. -/
def floorAt (i : Interval) (exponent : Int) : Decimal :=
  ⟨i.value * Nat.pow 10 (-exponent).toNat / (i.scale * Nat.pow 10 exponent.toNat), exponent⟩

/-- The decimal with so many digits that lies in the interval, if the grid has one. -/
def onGrid? (i : Interval) (digits : Nat) : Option Decimal :=
  let below := i.floorAt (i.leadingPlace - digits)
  let above : Decimal := ⟨below.digits + 1, below.exponent⟩
  match i.contains below, i.contains above with
  | true, true => some (if i.nearerAbove below then above else below)
  | true, false => some below
  | false, true => some above
  | false, false => none

def shortest (i : Interval) : Decimal :=
  dropZeros 20 <|
    ((List.range 17).findSome? fun n => i.onGrid? (n + 1)).getD (i.floorAt (i.leadingPlace - 17))

end Interval

/-- The shortest decimal that reads back as the magnitude of a finite number. -/
def shortest (x : Double) : Decimal :=
  if x.magnitude = 0 then ⟨0, 0⟩ else (Interval.ofDouble x).shortest

/-- A tenth, the sum of a tenth and two tenths, and the least number of all. -/
example :
    shortest (Double.ofDecimal false 1 (-1)) = ⟨1, -1⟩ ∧
    shortest ⟨0x3FD3333333333334⟩ = ⟨30000000000000004, -17⟩ ∧
    shortest ⟨1⟩ = ⟨5, -324⟩ := by
  decide +kernel

end Decimal

end CypherBatch
