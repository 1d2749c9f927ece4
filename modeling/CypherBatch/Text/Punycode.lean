/-!
# Punycode

A label with letters beyond ASCII is written in ASCII letters and digits: first
its ASCII characters and a hyphen, then for each other character how far it lies
behind the one before, in the order of the code points.  A distance is a number of mixed radix, lowest digit first, whose
thresholds adapt to the distances written so far.
-/

namespace CypherBatch
namespace Text
namespace Punycode

/-- The digit of a number below thirty-six, letters first. -/
def digit (n : Nat) : Char :=
  if n < 26 then Char.ofNat (97 + n) else Char.ofNat (22 + n)

/-- The threshold of a digit at position `k`. -/
def threshold (k bias : Nat) : Nat :=
  if k ≤ bias then 1 else min (k - bias) 26

/-- A threshold lies between 1 and 26. -/
theorem threshold_bounds (k bias : Nat) :
    1 ≤ threshold k bias ∧ threshold k bias ≤ 26 := by
  unfold threshold
  split <;> omega

/-- The digits of a distance from position `k` on. -/
def distanceDigits (bias k n : Nat) : List Char :=
  let t := threshold k bias
  if n < t then [digit n]
  else digit (t + (n - t) % (36 - t)) :: distanceDigits bias (k + 36) ((n - t) / (36 - t))
termination_by n
decreasing_by
  have bounds := threshold_bounds k bias
  exact Nat.lt_of_le_of_lt (Nat.div_le_self _ _) (by omega)

/-- How often a distance is divided until it is small, in steps of `k`, and what is left. -/
def scale (k n : Nat) : Nat × Nat :=
  if 455 < n then scale (k + 36) (n / 35) else (k, n)
termination_by n
decreasing_by exact Nat.div_lt_self (by omega) (by omega)

/-- The bias after a distance, when so many characters have been written. -/
def nextBias (n written : Nat) (isFirst : Bool) : Nat :=
  let n := if isFirst then n / 700 else n / 2
  let (k, n) := scale 0 (n + n / written)
  k + 36 * n / (n + 38)

/-- What has been written so far. -/
structure Progress where
  digits : List Char
  distance : Nat
  bias : Nat
  written : Nat
  isFirst : Bool

/-- Pass one character of the label while the characters of the code point are written. -/
def pass (code : Nat) (p : Progress) (c : Char) : Progress :=
  if c.toNat < code then { p with distance := p.distance + 1 }
  else if c.toNat = code then
    { digits := p.digits ++ distanceDigits p.bias 36 p.distance
      distance := 0
      bias := nextBias p.distance (p.written + 1) p.isFirst
      written := p.written + 1
      isFirst := false }
  else p

/-- Write the characters of the code points, which ascend; every one below `low` has been written. -/
def writeCodes (label : List Char) : Nat → List Nat → Progress → Progress
  | _, [], p => p
  | low, code :: codes, p =>
      let p := { p with distance := p.distance + (code - low) * (p.written + 1) }
      let p := label.foldl (pass code) p
      writeCodes label (code + 1) codes { p with distance := p.distance + 1 }

/-- Put a code point into its place among ascending ones. -/
def place (code : Nat) : List Nat → List Nat
  | [] => [code]
  | c :: codes =>
      if code < c then code :: c :: codes
      else if code = c then c :: codes
      else c :: place code codes

/-- The code points beyond ASCII of a label, ascending and each once. -/
def wideCodes (label : List Char) : List Nat :=
  ((label.map Char.toNat).filter (128 ≤ ·)).foldr place []

def encode (label : List Char) : List Char :=
  let basic := label.filter fun c => c.toNat < 128
  let codes := wideCodes label
  let written := writeCodes label 128 codes ⟨[], 0, 72, basic.length, true⟩
  (if basic.isEmpty then [] else basic ++ ['-']) ++ written.digits

/-- One letter among others, and no ASCII at all. -/
example :
    encode "bücher".toList = "bcher-kva".toList ∧ encode "中文".toList = "fiq228c".toList := by
  decide +kernel

end Punycode
end Text
end CypherBatch
