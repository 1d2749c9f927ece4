/-!
# Base64

Three bytes are written as four characters of six bits each.  A last group of
one or two bytes is filled up with zero bits and with equals signs.
-/

namespace CypherBatch
namespace Text

def base64Digit (n : Nat) : Char :=
  if n < 26 then Char.ofNat (65 + n)
  else if n < 52 then Char.ofNat (71 + n)
  else if n < 62 then Char.ofNat (n - 4)
  else if n = 62 then '+'
  else '/'

def base64 : List UInt8 → List Char
  | [] => []
  | [a] =>
      let n := a.toNat * 16
      [base64Digit (n / 64), base64Digit (n % 64), '=', '=']
  | [a, b] =>
      let n := (a.toNat * 256 + b.toNat) * 4
      [base64Digit (n / 4096), base64Digit (n / 64 % 64), base64Digit (n % 64), '=']
  | a :: b :: c :: rest =>
      let n := (a.toNat * 256 + b.toNat) * 256 + c.toNat
      base64Digit (n / 262144) :: base64Digit (n / 4096 % 64) :: base64Digit (n / 64 % 64) ::
        base64Digit (n % 64) :: base64 rest

/-- The three ways in which a text can end. -/
example :
    base64 [77, 97, 110] = ['T', 'W', 'F', 'u'] ∧ base64 [77, 97] = ['T', 'W', 'E', '='] ∧
    base64 [77] = ['T', 'Q', '=', '='] := by
  decide

end Text
end CypherBatch
