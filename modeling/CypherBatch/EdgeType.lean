import CypherBatch.ComposeError
import CypherBatch.Name
import CypherBatch.Statement
import CypherBatch.Text.Word

/-!
# Edge types

An edge has exactly one type, but a caller may name several.  A creation is
written once for each of them; a read asks for any of them.

The types are read off the text of a statement, at its first edge token: an
opening bracket, the variable `e` and one or more labels, each behind a colon.
A label is a name between backticks that holds no backtick, or the longest run
of word characters.
-/

namespace CypherBatch
namespace EdgeType

/-- The characters up to a closing backtick, with the rest behind it. -/
def readTicked : List Char → Option (List Char × List Char)
  | [] => none
  | c :: rest =>
      if c = Name.tick then some ([], rest)
      else (readTicked rest).map fun (name, rest) => (c :: name, rest)

/-- One label as it stands in the text, with the rest behind it. -/
def readLabel : List Char → Option (List Char × List Char)
  | [] => none
  | c :: rest =>
      if c = Name.tick then
        match readTicked rest with
        | some (d :: name, rest) => some (Name.tick :: d :: (name ++ [Name.tick]), rest)
        | _ => none
      else if Text.isWord c then
        some (c :: rest.takeWhile Text.isWord, rest.dropWhile Text.isWord)
      else none

/-- The rest behind a closing backtick is shorter than the text. -/
theorem length_readTicked
    {cs name rest : List Char} (h : readTicked cs = some (name, rest)) :
    rest.length < cs.length := by
  induction cs generalizing name with
  | nil => simp [readTicked] at h
  | cons c cs ih =>
      by_cases hc : c = Name.tick
      · simp only [readTicked, hc, if_true, Option.some.injEq, Prod.mk.injEq] at h
        simp [h.2]
      · simp only [readTicked, hc, if_false, Option.map_eq_some_iff, Prod.mk.injEq] at h
        obtain ⟨⟨name', rest'⟩, hr, -, rfl⟩ := h
        exact Nat.lt_succ_of_lt (ih hr)

/-- A label takes at least one character. -/
theorem length_readLabel
    {cs label rest : List Char} (h : readLabel cs = some (label, rest)) :
    rest.length < cs.length := by
  cases cs with
  | nil => simp [readLabel] at h
  | cons c cs =>
      by_cases hc : c = Name.tick
      · simp only [readLabel, hc, if_true] at h
        split at h
        · rename_i d name rest' hr
          simp only [Option.some.injEq, Prod.mk.injEq] at h
          obtain ⟨-, rfl⟩ := h
          exact Nat.lt_succ_of_lt (length_readTicked hr)
        · simp at h
      · simp only [readLabel, hc, if_false] at h
        split at h
        · simp only [Option.some.injEq, Prod.mk.injEq] at h
          obtain ⟨-, rfl⟩ := h
          exact Nat.lt_succ_of_le (List.dropWhile_sublist _).length_le
        · simp at h

/-- The labels at the head of a text, each behind a colon, with the rest behind them. -/
def readLabels : List Char → List (List Char) × List Char
  | [] => ([], [])
  | c :: cs =>
      if c = ':' then
        match _h : readLabel cs with
        | some (label, rest) =>
            let (labels, rest) := readLabels rest
            (label :: labels, rest)
        | none => ([], c :: cs)
      else ([], c :: cs)
termination_by cs => cs.length
decreasing_by
  have := length_readLabel _h
  simp only [List.length_cons]
  omega

/-- An edge token in a text: what stands before it, its labels, and what stands behind them. -/
structure Token where
  before : List Char
  labels : List (List Char)
  after : List Char
deriving DecidableEq

namespace Token

def atHead? : List Char → Option Token
  | '[' :: 'e' :: cs =>
      match readLabels cs with
      | ([], _) => none
      | (labels, rest) => some ⟨[], labels, rest⟩
  | _ => none

def find? : List Char → Option Token
  | [] => none
  | c :: cs =>
      match atHead? (c :: cs) with
      | some token => some token
      | none => (find? cs).map fun token => { token with before := c :: token.before }

/-- The text with the labels of the token replaced by the given text. -/
def replaced (token : Token) (types : List Char) : List Char :=
  token.before ++ '[' :: 'e' :: (types ++ token.after)

end Token

/-- The types of the edge of a query, as they stand in its text. -/
def ofQuery (query : String) : List String :=
  match Token.find? query.toList with
  | some token => token.labels.map String.ofList
  | none => []

/-- The labels with bars between them. -/
def alternation : List (List Char) → List Char
  | [] => []
  | [label] => label
  | label :: next :: rest => label ++ '|' :: alternation (next :: rest)

/-- How the types of an edge are written. -/
inductive Mode where
  /-- One statement for each type, and at least one type. -/
  | strict
  /-- One statement that asks for any of the types. -/
  | relaxed
deriving DecidableEq, Repr

/-- The statements that a statement stands for. -/
def expand (mode : Mode) (s : Statement) : Except ComposeError (List Statement) :=
  match mode, Token.find? s.query.toList with
  | .strict, none => .error (.label .statement)
  | .relaxed, none => .ok [s]
  | .strict, some token =>
      .ok (token.labels.map fun label =>
        { s with query := String.ofList (token.replaced (':' :: label)) })
  | .relaxed, some token =>
      if token.labels.length = 1 then .ok [s]
      else .ok [{ s with query := String.ofList (token.replaced (':' :: alternation token.labels)) }]

end EdgeType
end CypherBatch
