/-!
# White space

White space is the Unicode white space together with the four information
separators U+001C to U+001F.  The zero-width space U+200B and the byte order
mark U+FEFF are not in it.  This module defines the class, and trimming at one
or both ends of a text.  Numbers in settings are trimmed more narrowly, by the
Unicode white space alone, for which there is `isSpace`.
-/

namespace CypherBatch
namespace Text

def wideBlanks : List Nat :=
  [0x85, 0xA0, 0x1680, 0x2000, 0x2001, 0x2002, 0x2003, 0x2004, 0x2005, 0x2006, 0x2007, 0x2008,
   0x2009, 0x200A, 0x2028, 0x2029, 0x202F, 0x205F, 0x3000]

def isBlank (c : Char) : Bool :=
  (9 ≤ c.toNat && c.toNat ≤ 13) || (28 ≤ c.toNat && c.toNat ≤ 32) || wideBlanks.contains c.toNat

/-- The text from its first character that is not white space. -/
def dropBlank (cs : List Char) : List Char :=
  cs.dropWhile isBlank

/-- The text up to its last character that is not white space. -/
def dropBlankEnd (cs : List Char) : List Char :=
  (cs.reverse.dropWhile isBlank).reverse

def trim (s : String) : String :=
  String.ofList (dropBlankEnd (dropBlank s.toList))

/-- Is this a white-space character of Unicode, which the information separators are not? -/
def isSpace (c : Char) : Bool :=
  isBlank c && !(28 ≤ c.toNat && c.toNat ≤ 31)

/-- The text without Unicode white space at its ends. -/
def trimSpace (cs : List Char) : List Char :=
  ((cs.dropWhile isSpace).reverse.dropWhile isSpace).reverse

/-- What is left begins with no white space. -/
theorem head_dropBlank_not_isBlank
    {cs : List Char} {c : Char} {rest : List Char}
    (h : dropBlank cs = c :: rest) :
    isBlank c = false := by
  induction cs with
  | nil => simp [dropBlank] at h
  | cons d ds ih =>
      by_cases hd : isBlank d
      · exact ih (by simpa [dropBlank, hd] using h)
      · simp only [dropBlank, List.dropWhile_cons, hd] at h
        simp_all

@[simp] theorem dropBlank_dropBlank (cs : List Char) :
    dropBlank (dropBlank cs) = dropBlank cs := by
  induction cs with
  | nil => rfl
  | cons d ds ih =>
      by_cases hd : isBlank d
      · simpa [dropBlank, hd] using ih
      · simp [dropBlank, hd]

end Text
end CypherBatch
