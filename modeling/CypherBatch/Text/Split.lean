/-!
# Splitting at a separator

A text is split at the occurrences of a separator, found from the left and not
overlapping.  `splitFrom` carries how many characters of the current separator
are still to be skipped, so that it recurses on the text itself.
-/

namespace CypherBatch
namespace Text

def consFirst (c : Char) : List (List Char) → List (List Char)
  | [] => [[c]]
  | part :: parts => (c :: part) :: parts

/-- The parts of a text whose first `skip` characters belong to a separator already found. -/
def splitFrom (sep : List Char) : Nat → List Char → List (List Char)
  | _, [] => [[]]
  | skip + 1, _ :: cs => splitFrom sep skip cs
  | 0, c :: cs =>
      if sep.isPrefixOf (c :: cs) then [] :: splitFrom sep (sep.length - 1) cs
      else consFirst c (splitFrom sep 0 cs)

/-- The parts of a text between the occurrences of a separator that is not empty. -/
def splitOn (sep : List Char) (cs : List Char) : List (List Char) :=
  splitFrom sep 0 cs

def parts (sep s : String) : List String :=
  (splitOn sep.toList s.toList).map String.ofList

/-- Skipping characters is dropping them. -/
theorem splitFrom_eq_drop (sep : List Char) (skip : Nat) (cs : List Char) :
    splitFrom sep skip cs = splitFrom sep 0 (cs.drop skip) := by
  induction skip generalizing cs with
  | zero => rfl
  | succ skip ih =>
      cases cs with
      | nil => rfl
      | cons c cs => simpa [splitFrom] using ih cs

/-- A text always has a first part. -/
theorem splitFrom_ne_nil (sep : List Char) (skip : Nat) (cs : List Char) :
    splitFrom sep skip cs ≠ [] := by
  induction cs generalizing skip with
  | nil => cases skip <;> simp [splitFrom]
  | cons c cs ih =>
      cases skip with
      | succ skip => simpa [splitFrom] using ih skip
      | zero =>
          simp only [splitFrom]
          split
          · simp
          · cases h : splitFrom sep 0 cs <;> simp [consFirst]

/-- Separators are found from the left and do not overlap; empty parts are kept. -/
example :
    parts "__" "a___b" = ["a", "_b"] ∧ parts "__" "____" = ["", "", ""] ∧ parts "__" "" = [""] := by
  decide +kernel

end Text
end CypherBatch
