import CypherBatch.Json.Parser

/-!
# The encoding of JSON texts

JSON comes as bytes.  Its first character is ASCII, so the zeros among the first
four bytes tell whether a character takes one, two or four bytes and in which
order they stand.  A byte order mark in front of UTF-8 is left out.
-/

namespace CypherBatch
namespace Json

/-- How the characters of a text are encoded; the wide forms put the high byte first or last. -/
inductive Encoding where
  | utf8
  | utf16 (highFirst : Bool)
  | utf32 (highFirst : Bool)
deriving DecidableEq, Repr

namespace Encoding

def ofBytes : List UInt8 → Encoding
  | 0 :: 0 :: _ :: _ :: _ => .utf32 true
  | 0 :: _ :: _ :: _ :: _ => .utf16 true
  | _ :: 0 :: 0 :: 0 :: _ => .utf32 false
  | _ :: 0 :: _ :: _ :: _ => .utf16 false
  | [0, _] => .utf16 true
  | [_, 0] => .utf16 false
  | _ => .utf8

/-- The numbers that pairs of bytes are. -/
def pairs (highFirst : Bool) : List UInt8 → Option (List Nat)
  | [] => some []
  | [_] => none
  | a :: b :: rest =>
      let n := if highFirst then a.toNat * 256 + b.toNat else b.toNat * 256 + a.toNat
      (pairs highFirst rest).map fun ns => n :: ns

/-- The numbers that pairs of numbers are. -/
def quads (highFirst : Bool) : List Nat → Option (List Nat)
  | [] => some []
  | [_] => none
  | a :: b :: rest =>
      let n := if highFirst then a * 65536 + b else b * 65536 + a
      (quads highFirst rest).map fun ns => n :: ns

/-- The characters of bytes in wide form. -/
def wideText? (e : Encoding) (bytes : List UInt8) : Option (List Char) :=
  match e with
  | .utf8 => none
  | .utf16 highFirst => do joinUnits? (← pairs highFirst bytes)
  | .utf32 highFirst => do
      let codes ← quads highFirst (← pairs highFirst bytes)
      codes.mapM codeChar?

end Encoding

/-- The value that the bytes of a text denote, whatever their encoding. -/
def parseBytes (text : String) : Except Fault Value :=
  let bytes := text.toUTF8.toList
  match Encoding.ofBytes bytes with
  | .utf8 =>
      match text.toList with
      | '\ufeff' :: rest => parse (String.ofList rest)
      | _ => parse text
  | wide =>
      match wide.wideText? bytes with
      | some cs => parse (String.ofList cs)
      | none => .error .undecodable

/-- An empty object in each encoding, and one with half a character too much. -/
example :
    (parseBytes "\ufeff\x7b\x7d").toOption = some (.map []) ∧
    (parseBytes "\x7b\x00\x7d\x00").toOption = some (.map []) ∧
    (parseBytes "\x00\x00\x00[\x00\x00\x00]").toOption = some (.list []) ∧
    (parseBytes "\x00\x7b\x00\x7d\x00").toOption = none := by
  decide +kernel

end Json
end CypherBatch
