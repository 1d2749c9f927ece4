import CypherBatch.Json.Parser
import CypherBatch.Json.Printer
import Mathlib.Tactic

/-!
# Written strings

A string is written character by character: some as they are, some behind a backslash, and
the others as the escapes of their UTF-16 code units, one or a pair.

Reading undoes this, whatever stands behind the closing quote.  The code units of a
character are read back one by one, and joined they are the character: no character has a
code point among the surrogates, so that a pair is never met by accident.  Hence no written
string is the beginning of another one.
-/

namespace CypherBatch
namespace Json

section Units

/-- The UTF-16 code units of a character. -/
def charUnits (c : Char) : List Nat :=
  if c.toNat < 0x10000 then [c.toNat]
  else [0xD800 + (c.toNat - 0x10000) / 0x400, 0xDC00 + (c.toNat - 0x10000) % 0x400]

/-- No character is half of a surrogate pair. -/
theorem toNat_not_surrogate (c : Char) : ¬ (0xD800 ≤ c.toNat ∧ c.toNat < 0xE000) := by
  have hvalid : c.toNat.isValidChar := c.valid
  unfold Nat.isValidChar at hvalid
  omega

theorem codeChar?_toNat (c : Char) : codeChar? c.toNat = some c := by
  have hvalid : c.toNat.isValidChar := c.valid
  rw [codeChar?, if_pos hvalid, Char.ofNat_toNat]

/-- A unit that begins no surrogate pair is a character of its own. -/
theorem joinUnits?_cons_toNat (c : Char) (units : List Nat) :
    joinUnits? (c.toNat :: units) = (joinUnits? units).map fun cs => c :: cs := by
  cases units with
  | nil =>
      simp [joinUnits?, codeChar?_toNat]
  | cons low units =>
      have hnot := toNat_not_surrogate c
      rw [joinUnits?, if_neg (by omega), codeChar?_toNat]
      cases joinUnits? (low :: units) <;> rfl

/-- The units of a character, joined, are the character. -/
theorem joinUnits?_charUnits (c : Char) (units : List Nat) :
    joinUnits? (charUnits c ++ units) = (joinUnits? units).map fun cs => c :: cs := by
  unfold charUnits
  split
  · exact joinUnits?_cons_toNat c units
  · have hvalid : c.toNat.isValidChar := c.valid
    unfold Nat.isValidChar at hvalid
    have hpair : 0x10000 + (0xD800 + (c.toNat - 0x10000) / 0x400 - 0xD800) * 0x400 +
        (0xDC00 + (c.toNat - 0x10000) % 0x400 - 0xDC00) = c.toNat := by
      omega
    rw [List.cons_append, List.cons_append, List.nil_append, joinUnits?, if_pos (by omega), hpair,
      Char.ofNat_toNat]

theorem joinUnits?_flatMap_charUnits (cs : List Char) :
    joinUnits? (cs.flatMap charUnits) = some cs := by
  induction cs with
  | nil =>
      rfl
  | cons c cs ih =>
      rw [List.flatMap_cons, joinUnits?_charUnits, ih, Option.map_some]

end Units

section Reading

/-- Four digits of a code unit are read back as the unit. -/
theorem exists_hexDigits_eq {unit : Nat} (h : unit < 0x10000) :
    ∃ d1 d2 d3 d4, Text.hexDigits 4 unit = [d1, d2, d3, d4] ∧
      Text.hexQuad? d1 d2 d3 d4 = some unit := by
  refine ⟨_, _, _, _, rfl, ?_⟩
  have hread (n : Nat) : Text.hexValue? (Text.hexDigit (n % 16)) = some (n % 16) :=
    Text.hexValue?_hexDigit _ (Nat.mod_lt n (by decide))
  simp only [Text.hexQuad?, hread, Option.pure_def, Option.bind_eq_bind, Option.bind_some,
    Option.some.injEq]
  omega

/-- What is read behind some units that have been read. -/
def readBehind (units : List Nat) (rest : List Char) : Option (List Nat × List Char) :=
  (readUnits rest).map fun read => (units ++ read.1, read.2)

theorem readBehind_append (units more : List Nat) (rest : List Char) :
    (readBehind more rest).map (fun read => (units ++ read.1, read.2)) =
      readBehind (units ++ more) rest := by
  simp [readBehind, Function.comp_def]

theorem readUnits_unitEscape {unit : Nat} (h : unit < 0x10000) (rest : List Char) :
    readUnits (unitEscape unit ++ rest) = readBehind [unit] rest := by
  obtain ⟨d1, d2, d3, d4, hdigits, hquad⟩ := exists_hexDigits_eq h
  rw [unitEscape, hdigits]
  cases hread : readUnits rest <;> simp [readBehind, readUnits, hquad, hread]

/-- A backslash and the letter of an escape are read as the character that it stands for. -/
theorem readUnits_letter
    {letter c : Char} (hletter : letter ≠ 'u') (htarget : escapeTarget? letter = some c)
    (rest : List Char) :
    readUnits ('\\' :: letter :: rest) = readBehind [c.toNat] rest := by
  rw [readUnits.eq_def]
  cases hread : readUnits rest <;> simp [readBehind, hletter, htarget, hread]

theorem readUnits_plain
    {c : Char} (hquote : c ≠ '"') (hslash : c ≠ '\\') (hprint : 32 ≤ c.toNat) (rest : List Char) :
    readUnits (c :: rest) = readBehind [c.toNat] rest := by
  have hnot : ¬ c.toNat < 0x20 := by
    omega
  rw [readUnits.eq_def]
  cases hread : readUnits rest <;> simp [readBehind, hquote, hslash, hnot, hread]

/-- A written character is read as its code units. -/
theorem readUnits_escapedChar (c : Char) (rest : List Char) :
    readUnits (escapedChar c ++ rest) = readBehind (charUnits c) rest := by
  have hsmall (h : c.toNat < 0x10000) : charUnits c = [c.toNat] := if_pos h
  unfold escapedChar
  split
  · rename_i hspecial
    rcases hspecial with rfl | rfl <;> exact readUnits_letter (by decide) (by decide) rest
  split
  · rename_i hline
    subst hline
    exact readUnits_letter (by decide) (by decide) rest
  split
  · rename_i hreturn
    subst hreturn
    exact readUnits_letter (by decide) (by decide) rest
  split
  · rename_i htab
    subst htab
    exact readUnits_letter (by decide) (by decide) rest
  split
  · rename_i hfeed
    subst hfeed
    exact readUnits_letter (by decide) (by decide) rest
  split
  · rename_i hback
    subst hback
    exact readUnits_letter (by decide) (by decide) rest
  split
  · rename_i hspecial _ _ _ _ _ hprint
    rw [not_or] at hspecial
    rw [hsmall (by omega)]
    exact readUnits_plain hspecial.1 hspecial.2 hprint.1 rest
  split
  · rename_i hunit
    rw [hsmall hunit]
    exact readUnits_unitEscape hunit rest
  · rename_i hpair
    have hvalid : c.toNat.isValidChar := c.valid
    unfold Nat.isValidChar at hvalid
    rw [List.append_assoc, readUnits_unitEscape (by omega), readBehind,
      readUnits_unitEscape (by omega), readBehind_append, charUnits, if_neg hpair]
    rfl

/-- A written text is read as its code units, up to the closing quote. -/
theorem readUnits_flatMap_escapedChar (cs rest : List Char) :
    readUnits (cs.flatMap escapedChar ++ '"' :: rest) = some (cs.flatMap charUnits, rest) := by
  induction cs with
  | nil =>
      rw [List.flatMap_nil, List.nil_append, readUnits.eq_def]
      rfl
  | cons c cs ih =>
      rw [List.flatMap_cons, List.append_assoc, readUnits_escapedChar, readBehind, ih]
      rfl

/-- A written string is read back, whatever follows it. -/
theorem readString_escaped (s : String) (rest : List Char) :
    readString (s.toList.flatMap escapedChar ++ '"' :: rest) = .ok (s, rest) := by
  rw [readString, readUnits_flatMap_escapedChar]
  simp only [joinUnits?_flatMap_charUnits, String.ofList_toList]

theorem stringChars_append (s : String) (rest : List Char) :
    stringChars s ++ rest = '"' :: (s.toList.flatMap escapedChar ++ '"' :: rest) := by
  simp [stringChars]

/-- Whatever follows, two written strings are the same only for the same string. -/
theorem stringChars_append_inj
    {s t : String} {rest rest' : List Char}
    (h : stringChars s ++ rest = stringChars t ++ rest') :
    s = t ∧ rest = rest' := by
  rw [stringChars_append, stringChars_append, List.cons.injEq] at h
  have hread := readString_escaped s rest
  rw [h.2, readString_escaped, Except.ok.injEq, Prod.mk.injEq] at hread
  exact ⟨hread.1.symm, hread.2.symm⟩

end Reading

end Json
end CypherBatch
