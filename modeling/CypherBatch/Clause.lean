import CypherBatch.ShapeError
import CypherBatch.Text.Blank
import CypherBatch.Text.Word

/-!
# Clauses of a generic read

A clause plays the role of its leading keyword: `WHERE` filters, `SET` and
`REMOVE` mutate, `RETURN`, `DELETE` and `DETACH DELETE` end the statement, and
`SHORTESTPATH` or `ALLSHORTESTPATHS`, which stand alone, ask for a path.
Keywords are read without regard to letter case, the long s counting as an S,
and white space may stand in front.  `ClauseSet.ofFragments` takes the clauses
in any order and keeps at most one for each role.
-/

namespace CypherBatch
namespace Clause

/-- Is the character the given capital letter, in either case?  The long s is an S. -/
def sameLetter (capital c : Char) : Bool :=
  c = capital || c.toNat = capital.toNat + 32 || (capital = 'S' && c = '\u017f')

/-- The text behind a keyword given in capital letters. -/
def afterKeyword? : List Char → List Char → Option (List Char)
  | [], cs => some cs
  | _ :: _, [] => none
  | k :: keyword, c :: cs => if sameLetter k c then afterKeyword? keyword cs else none

def atWordEnd : List Char → Bool
  | [] => true
  | c :: _ => !Text.isWord c

/-- Does the text begin with the keyword as a whole word? -/
def opens (keyword : String) (cs : List Char) : Bool :=
  match afterKeyword? keyword.toList cs with
  | some rest => atWordEnd rest
  | none => false

/-- Does the text begin with two keywords and white space between them? -/
def opensTwo (first second : String) (cs : List Char) : Bool :=
  match afterKeyword? first.toList cs with
  | some (c :: rest) => Text.isBlank c && opens second (Text.dropBlank rest)
  | _ => false

/-- Is the text the keyword and nothing else but white space behind it? -/
def isAlone (keyword : String) (cs : List Char) : Bool :=
  match afterKeyword? keyword.toList cs with
  | some rest => rest.all Text.isBlank
  | none => false

end Clause

namespace ClauseRole

/-- Does a text that begins without white space play this role? -/
def matchesTrimmed (cs : List Char) : ClauseRole → Bool
  | .filter => Clause.opens "WHERE" cs
  | .mutation => Clause.opens "SET" cs || Clause.opens "REMOVE" cs
  | .terminal =>
      Clause.opens "RETURN" cs || Clause.opens "DELETE" cs || Clause.opensTwo "DETACH" "DELETE" cs
  | .path => Clause.isAlone "ALLSHORTESTPATHS" cs || Clause.isAlone "SHORTESTPATH" cs

def accepts (role : ClauseRole) (text : String) : Bool :=
  role.matchesTrimmed (Text.dropBlank text.toList)

def ofText? (text : String) : Option ClauseRole :=
  all.find? fun role => role.accepts text

/-- The role of a value; only text plays a role. -/
def ofValue? : Value → Option ClauseRole
  | .str s => ofText? s
  | _ => none

/-- Letter case, the long s, a word that goes on, and white space between two keywords. -/
example :
    ofText? " where x" = some .filter ∧
    ofText? "\u017fET a.x = 1" = some .mutation ∧
    ofText? "RETURNS" = none ∧
    ofText? "detach\n delete a" = some .terminal ∧
    ofText? "ShortestPath \n" = some .path := by
  decide +kernel

end ClauseRole

/-- The clauses of a generic read, one for each role. -/
structure ClauseSet where
  terminal : String
  filter : Option String
  mutation : Option String
  path : Option String
deriving DecidableEq

namespace ClauseSet

/-- Filter, mutation and terminal clause in this order, each trimmed; empty ones are left out. -/
def tail (clauses : ClauseSet) : String :=
  let given := [clauses.filter.getD "", clauses.mutation.getD "", clauses.terminal]
  String.intercalate " " ((given.filter (· ≠ "")).map Text.trim)

end ClauseSet

/-- The clauses found so far. -/
structure ClauseDraft where
  filter : Option String
  mutation : Option String
  terminal : Option String
  path : Option String
deriving DecidableEq

namespace ClauseDraft

def empty : ClauseDraft := ⟨none, none, none, none⟩

def get? (draft : ClauseDraft) : ClauseRole → Option String
  | .filter => draft.filter
  | .mutation => draft.mutation
  | .terminal => draft.terminal
  | .path => draft.path

def put (draft : ClauseDraft) (text : String) : ClauseRole → ClauseDraft
  | .filter => { draft with filter := some text }
  | .mutation => { draft with mutation := some text }
  | .terminal => { draft with terminal := some text }
  | .path => { draft with path := some text }

/-- Add one fragment: its text is trimmed and kept under its role. -/
def add (draft : ClauseDraft) (fragment : Value) : Except ShapeError ClauseDraft :=
  match fragment with
  | .str text =>
      match ClauseRole.ofText? text with
      | none => .error (.unknownClause fragment)
      | some role =>
          match draft.get? role with
          | some first => .error (.repeatedClause role first text)
          | none => .ok (draft.put (Text.trim text) role)
  | _ => .error (.unknownClause fragment)

/-- The clauses of a read; one that ends the statement is required. -/
def clauses (draft : ClauseDraft) : Except ShapeError ClauseSet :=
  match draft.terminal with
  | none => .error .noTerminal
  | some terminal => .ok ⟨terminal, draft.filter, draft.mutation, draft.path⟩

end ClauseDraft

namespace ClauseSet

def ofFragments (fragments : List Value) : Except ShapeError ClauseSet :=
  (fragments.foldlM ClauseDraft.add ClauseDraft.empty).bind ClauseDraft.clauses

end ClauseSet
end CypherBatch
