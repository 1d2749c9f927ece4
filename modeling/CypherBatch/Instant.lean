import CypherBatch.Decimal.Text

/-!
# Instants

An instant is a number of microseconds since the beginning of 1970 in universal
time, and may lie before it.  Its text is a date and a time of day in the
Gregorian calendar, with a fraction of six digits unless that is zero, and the
offset of universal time.
-/

namespace CypherBatch

/-- Microseconds since the beginning of 1970. -/
structure Instant where
  micros : Int
deriving DecidableEq

namespace Instant

/-- Microseconds in a day. -/
def dayLength : Nat := 86400000000

/-- A calendar date. -/
structure Date where
  year : Int
  month : Nat
  day : Nat
deriving DecidableEq

/--
The date of a day counted from the first of March of the year 0.  Years are
taken to begin in March, so that the leap day is the last of its year; four
hundred of them have 146097 days.
-/
def dateOfMarchDay (n : Int) : Date :=
  let era := Int.fdiv n 146097
  let dayOfEra := (Int.fmod n 146097).toNat
  let yearOfEra := (dayOfEra - dayOfEra / 1460 + dayOfEra / 36524 - dayOfEra / 146096) / 365
  let dayOfYear := dayOfEra - (365 * yearOfEra + yearOfEra / 4 - yearOfEra / 100)
  let monthFromMarch := (5 * dayOfYear + 2) / 153
  let month := if monthFromMarch < 10 then monthFromMarch + 3 else monthFromMarch - 9
  { year := yearOfEra + era * 400 + (if month ≤ 2 then 1 else 0)
    month := month
    day := dayOfYear - (153 * monthFromMarch + 2) / 5 + 1 }

def date (t : Instant) : Date :=
  dateOfMarchDay (Int.fdiv t.micros dayLength + 719468)

/-- The microseconds since the beginning of the day. -/
def timeOfDay (t : Instant) : Nat :=
  (Int.fmod t.micros dayLength).toNat

def Date.text (d : Date) : String :=
  Decimal.paddedText 4 d.year.toNat ++ "-" ++ Decimal.paddedText 2 d.month ++ "-" ++
    Decimal.paddedText 2 d.day

def text (t : Instant) : String :=
  let micros := t.timeOfDay
  let seconds := micros / 1000000
  let fraction := micros % 1000000
  t.date.text ++ "T" ++ Decimal.paddedText 2 (seconds / 3600) ++ ":" ++
    Decimal.paddedText 2 (seconds / 60 % 60) ++ ":" ++ Decimal.paddedText 2 (seconds % 60) ++
    (if fraction = 0 then "" else "." ++ Decimal.paddedText 6 fraction) ++ "+00:00"

/-- An instant always has a text. -/
theorem text_ne_empty (t : Instant) : t.text ≠ "" := by
  intro h
  have hchars := congrArg String.toList h
  simp [text] at hchars

/-- A leap day, the microsecond before 1970 and the last one of the year 9999. -/
example :
    text ⟨1709164800000000⟩ = "2024-02-29T00:00:00+00:00" ∧
    text ⟨-1⟩ = "1969-12-31T23:59:59.999999+00:00" ∧
    text ⟨253402300799999999⟩ = "9999-12-31T23:59:59.999999+00:00" := by
  decide +kernel

end Instant
end CypherBatch
