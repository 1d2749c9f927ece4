import CypherBatch.Text.Hex
import CypherBatch.Text.Utf8

/-!
# Percent encoding

A character that may not stand in a part of an address is written as its UTF-8
bytes, each as a percent sign and two upper-case hexadecimal digits.  Reading
takes every such group for its byte and every other character for itself.
-/

namespace CypherBatch
namespace Text

/-- A byte as a percent sign and two digits. -/
def percentByte (b : UInt8) : List Char :=
  '%' :: (hexDigits 2 b.toNat).map Char.toUpper

/-- The text with every character encoded that may not stay. -/
def percentEncode (stays : Char → Bool) (cs : List Char) : List Char :=
  cs.flatMap fun c =>
    if stays c then [c] else (String.ofList [c]).toUTF8.toList.flatMap percentByte

/-- The bytes of an ASCII text with its groups read. -/
def percentBytes : List Char → List UInt8
  | [] => []
  | '%' :: a :: b :: rest =>
      match hexValue? a, hexValue? b with
      | some high, some low => UInt8.ofNat (high * 16 + low) :: percentBytes rest
      | _, _ => 0x25 :: percentBytes (a :: b :: rest)
  | c :: rest => UInt8.ofNat c.toNat :: percentBytes rest

def percentDecode (s : String) : String :=
  String.ofList (decodeUtf8 (percentBytes s.toList))

/-- A letter of two bytes is written as two groups and read back. -/
example :
    percentEncode (fun c => c.isAlpha) "aé".toList = "a%C3%A9".toList ∧
    percentDecode "a%C3%a9%" = "aé%" := by
  decide +kernel

end Text
end CypherBatch
