import CypherBatch.Text.Base64
import Mathlib.Tactic

/-!
# Reading encoded text

Base64 is read back in groups of four characters.  A group stands for the 24 bits of
three bytes; the last group may end in one or two equals signs and then stands for two
bytes or one, and the bits that it does not need are zero.  What is written for bytes is
read back as these bytes, whatever their number: the digits are read back one by one, and
the bytes are put together again from the bits they were cut into.

The bytes of a text are read back as the text.  Unlike the reader for bytes that may be
broken, the one here takes nothing but UTF-8.
-/

namespace CypherBatch
namespace Text

/-- The six bits for which a character stands. -/
def base64Value? (c : Char) : Option Nat :=
  if 'A' ≤ c ∧ c ≤ 'Z' then some (c.toNat - 65)
  else if 'a' ≤ c ∧ c ≤ 'z' then some (c.toNat - 71)
  else if '0' ≤ c ∧ c ≤ '9' then some (c.toNat + 4)
  else if c = '+' then some 62
  else if c = '/' then some 63
  else none

/-- The bits of some characters, behind bits read before. -/
def base64Bits? : Nat → List Char → Option Nat
  | bits, [] => some bits
  | bits, c :: rest => (base64Value? c).bind fun value => base64Bits? (bits * 64 + value) rest

/-- The bytes of a last group of which the last character is an equals sign. -/
def paddedBytes? (a b c : Char) : Option (List UInt8) :=
  if c = '=' then
    (base64Bits? 0 [a, b]).bind fun bits =>
      if bits % 16 = 0 then some [UInt8.ofNat (bits / 16)] else none
  else
    (base64Bits? 0 [a, b, c]).bind fun bits =>
      if bits % 4 = 0 then some [UInt8.ofNat (bits / 1024), UInt8.ofNat (bits / 4 % 256)] else none

/-- The bytes of a group of four digits. -/
def groupBytes? (a b c d : Char) : Option (List UInt8) :=
  (base64Bits? 0 [a, b, c, d]).map fun bits =>
    [UInt8.ofNat (bits / 65536), UInt8.ofNat (bits / 256 % 256), UInt8.ofNat (bits % 256)]

/-- The bytes of a Base64 text, whose last group must be complete. -/
def unbase64? : List Char → Option (List UInt8)
  | [] => some []
  | a :: b :: c :: d :: rest =>
      if d = '=' ∧ rest = [] then paddedBytes? a b c
      else
        (groupBytes? a b c d).bind fun bytes => (unbase64? rest).map (bytes ++ ·)
  | _ => none

section Digits

variable {n : Nat}

/-- A digit is read back. -/
theorem base64Value?_base64Digit (h : n < 64) : base64Value? (base64Digit n) = some n := by
  have hall : ∀ n < 64, base64Value? (base64Digit n) = some n := by
    decide +kernel
  exact hall n h

/-- No digit is an equals sign. -/
theorem base64Digit_ne (h : n < 64) : base64Digit n ≠ '=' := by
  intro heq
  have hvalue := base64Value?_base64Digit h
  rw [heq] at hvalue
  cases hvalue

/-- The bits of a digit are put behind those read before it. -/
theorem base64Bits?_base64Digit (h : n < 64) (bits : Nat) (rest : List Char) :
    base64Bits? bits (base64Digit n :: rest) = base64Bits? (bits * 64 + n) rest := by
  rw [base64Bits?, base64Value?_base64Digit h, Option.bind_some]

end Digits

/-- What is written for bytes is read back as the bytes. -/
theorem unbase64?_base64 (bytes : List UInt8) : unbase64? (base64 bytes) = some bytes := by
  -- one case for each way in which a text can end, and one for a group of three bytes
  induction bytes using base64.induct with
  | case1 =>
      rfl
  | case2 a =>
      have ha := a.toNat_lt
      simp only [base64]
      generalize hn : a.toNat * 16 = n
      have hbits : base64Bits? 0 [base64Digit (n / 64), base64Digit (n % 64)] = some n := by
        rw [base64Bits?_base64Digit (by omega), base64Bits?_base64Digit (by omega), base64Bits?,
          Option.some_inj]
        omega
      have hspare : n % 16 = 0 := by omega
      have hbyte : n / 16 = a.toNat := by omega
      simp [unbase64?, paddedBytes?, hbits, hspare, hbyte]
  | case3 a b =>
      have ha := a.toNat_lt
      have hb := b.toNat_lt
      simp only [base64]
      generalize hn : (a.toNat * 256 + b.toNat) * 4 = n
      have hbits : base64Bits? 0
          [base64Digit (n / 4096), base64Digit (n / 64 % 64), base64Digit (n % 64)] = some n := by
        rw [base64Bits?_base64Digit (by omega), base64Bits?_base64Digit (by omega),
          base64Bits?_base64Digit (by omega), base64Bits?, Option.some_inj]
        omega
      have hdigit : base64Digit (n % 64) ≠ '=' := base64Digit_ne (by omega)
      have hspare : n % 4 = 0 := by omega
      have hfirst : n / 1024 = a.toNat := by omega
      have hsecond : n / 4 % 256 = b.toNat := by omega
      simp [unbase64?, paddedBytes?, hdigit, hbits, hspare, hfirst, hsecond]
  | case4 a b c rest ih =>
      have ha := a.toNat_lt
      have hb := b.toNat_lt
      have hc := c.toNat_lt
      simp only [base64]
      generalize hn : (a.toNat * 256 + b.toNat) * 256 + c.toNat = n
      have hbits : base64Bits? 0 [base64Digit (n / 262144), base64Digit (n / 4096 % 64),
          base64Digit (n / 64 % 64), base64Digit (n % 64)] = some n := by
        rw [base64Bits?_base64Digit (by omega), base64Bits?_base64Digit (by omega),
          base64Bits?_base64Digit (by omega), base64Bits?_base64Digit (by omega), base64Bits?,
          Option.some_inj]
        omega
      have hdigit : base64Digit (n % 64) ≠ '=' := base64Digit_ne (by omega)
      have hfirst : n / 65536 = a.toNat := by omega
      have hsecond : n / 256 % 256 = b.toNat := by omega
      have hthird : n % 256 = c.toNat := by omega
      simp [unbase64?, groupBytes?, hdigit, hbits, hfirst, hsecond, hthird, ih]

/-- The text that some bytes are in UTF-8. -/
def readUtf8? (bytes : List UInt8) : Option String :=
  String.fromUTF8? bytes.toByteArray

theorem toList_loop_eq (bytes : ByteArray) (i : Nat) (read : List UInt8) :
    ByteArray.toList.loop bytes i read = read.reverse ++ bytes.data.toList.drop i := by
  fun_induction ByteArray.toList.loop bytes i read with
  | case1 i read hmore ih =>
      have hlength : i < bytes.data.toList.length := hmore
      have hbyte : bytes.get! i = bytes.data.toList[i] :=
        getElem!_pos bytes.data i hmore
      rw [ih, List.drop_eq_getElem_cons hlength, hbyte, List.reverse_cons, List.append_assoc,
        List.singleton_append]
  | case2 i read hend =>
      have hlength : bytes.data.toList.length ≤ i := Nat.le_of_not_lt hend
      rw [List.drop_eq_nil_of_le hlength, List.append_nil]

/-- Bytes that are listed and put together again are the same bytes. -/
theorem toByteArray_toList (bytes : ByteArray) : bytes.toList.toByteArray = bytes := by
  apply ByteArray.ext
  rw [ByteArray.toList, toList_loop_eq, ← Array.toList_inj, List.toList_data_toByteArray]
  rfl

/-- The bytes of a text are read back as the text. -/
theorem readUtf8?_toUTF8 (s : String) : readUtf8? s.toUTF8.toList = some s := by
  have hvalid : s.toUTF8.IsValidUTF8 := s.isValidUTF8
  rw [readUtf8?, toByteArray_toList, String.fromUTF8?, dif_pos hvalid]
  rfl

end Text
end CypherBatch
