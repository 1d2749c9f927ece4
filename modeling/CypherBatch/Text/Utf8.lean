/-!
# UTF-8 that may be broken

Bytes are read as UTF-8.  What cannot be read is replaced: each longest run of
bytes that begins a character without completing it, and each byte that begins
none, becomes one replacement character U+FFFD.
-/

namespace CypherBatch
namespace Text

/-- A character that was begun: its bits so far, the bytes it lacks, and the range of the next. -/
structure PartialChar where
  bits : Nat
  lacking : Nat
  low : Nat
  high : Nat

/-- What one byte begins. -/
inductive LeadByte where
  | whole (c : Char)
  | begun (p : PartialChar)
  | stray

/-- What stands for bytes that cannot be read. -/
def replacement : Char := '\ufffd'

/-- What a byte begins.  The range of the next byte keeps out needlessly long forms and surrogates. -/
def leadByte (b : Nat) : LeadByte :=
  if b < 0x80 then .whole (Char.ofNat b)
  else if b < 0xC2 then .stray
  else if b < 0xE0 then .begun ⟨b % 32, 1, 0x80, 0xBF⟩
  else if b < 0xF0 then
    .begun ⟨b % 16, 2, if b = 0xE0 then 0xA0 else 0x80, if b = 0xED then 0x9F else 0xBF⟩
  else if b < 0xF5 then
    .begun ⟨b % 8, 3, if b = 0xF0 then 0x90 else 0x80, if b = 0xF4 then 0x8F else 0xBF⟩
  else .stray

/-- The characters of bytes, behind a character that may have been begun. -/
def decodeFrom : Option PartialChar → List UInt8 → List Char
  | none, [] => []
  | some _, [] => [replacement]
  | some p, b :: rest =>
      if p.low ≤ b.toNat ∧ b.toNat ≤ p.high then
        let bits := p.bits * 64 + b.toNat % 64
        if p.lacking = 1 then Char.ofNat bits :: decodeFrom none rest
        else decodeFrom (some ⟨bits, p.lacking - 1, 0x80, 0xBF⟩) rest
      else
        match leadByte b.toNat with
        | .whole c => replacement :: c :: decodeFrom none rest
        | .begun p => replacement :: decodeFrom (some p) rest
        | .stray => replacement :: replacement :: decodeFrom none rest
  | none, b :: rest =>
      match leadByte b.toNat with
      | .whole c => c :: decodeFrom none rest
      | .begun p => decodeFrom (some p) rest
      | .stray => replacement :: decodeFrom none rest

def decodeUtf8 (bytes : List UInt8) : List Char :=
  decodeFrom none bytes

/-- A letter, a character broken off, and a surrogate, whose three bytes are strays. -/
example :
    decodeUtf8 [0xC3, 0xA9] = ['é'] ∧
    decodeUtf8 [0xE4, 0xB8, 0x41] = [replacement, 'A'] ∧
    decodeUtf8 [0xED, 0xA0, 0x80] = [replacement, replacement, replacement] := by
  decide +kernel

end Text
end CypherBatch
