import CypherBatch.Value

/-!
# Names in a statement

Labels and property keys stand in the text of a statement.  A plain identifier
stands as it is; any other name is put between backticks, a backtick inside it
written twice.  Labels follow one another, each behind a colon.

A plain identifier may end in one line feed, which no reader takes as part of it.
-/

namespace CypherBatch
namespace Name

def tick : Char := '\x60'

/-- Can a plain identifier begin with the character? -/
def isIdentifierStart (c : Char) : Bool :=
  c.isAlpha || c = '_'

/-- Can a plain identifier go on with the character? -/
def isIdentifierPart (c : Char) : Bool :=
  c.isAlphanum || c = '_'

/-- Do only identifier characters follow, with at most a line feed at the end? -/
def isIdentifierTail : List Char → Bool
  | [] => true
  | ['\n'] => true
  | c :: rest => isIdentifierPart c && isIdentifierTail rest

/-- Can the name stand as it is? -/
def isPlain : List Char → Bool
  | [] => false
  | c :: rest => isIdentifierStart c && isIdentifierTail rest

/-- A character of a name between backticks. -/
def doubled (c : Char) : List Char :=
  if c = tick then [c, c] else [c]

/-- A name as it stands in a statement. -/
def quotedChars (cs : List Char) : List Char :=
  if isPlain cs then cs else tick :: (cs.flatMap doubled ++ [tick])

def quote (name : String) : String :=
  String.ofList (quotedChars name.toList)

/-- The labels of an entity, each behind a colon; empty ones are left out. -/
def labelText (labels : List String) : String :=
  String.join ((labels.filter (· ≠ "")).map fun label => ":" ++ quote label)

/--
The labels that a value names: nothing for a vacant value, one for a string,
those of its items that are not vacant for a list or map.  An item that is
neither vacant nor text names no label.
-/
def labels? (v : Value) : Option (List String) :=
  if v.isVacant then some []
  else
    match v with
    | .str s => some [s]
    | .list items => (items.filter fun item => !item.isVacant).mapM Value.text?
    | .map fields => some (PropertyMap.keys fields)
    | _ => none

/-- A space, a backtick and a final line feed. -/
example :
    quote "my label" = "\x60my label\x60" ∧ quote "a\x60b" = "\x60a\x60\x60b\x60" ∧
    quote "a\n" = "a\n" ∧ quote "" = "\x60\x60" := by
  decide +kernel

end Name
end CypherBatch
