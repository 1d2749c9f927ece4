import CypherBatch.Value.Shown

/-!
# Errors of shape

A call whose arguments cannot be read as entities, clauses or units is refused
before anything is written.  Each constructor is one cause; `message` words it.
-/

namespace CypherBatch

/-- The part that a clause plays in a generic read. -/
inductive ClauseRole where
  | filter
  | mutation
  | terminal
  | path
deriving DecidableEq, Repr

namespace ClauseRole

/-- The roles, in the order in which they are tried. -/
def all : List ClauseRole :=
  [.filter, .mutation, .terminal, .path]

def name : ClauseRole → String
  | .filter => "filter"
  | .mutation => "mutation"
  | .terminal => "terminal"
  | .path => "path"

end ClauseRole

/-- The place of a node in a pattern. -/
inductive NodePlace where
  /-- The only node of a node statement. -/
  | only
  /-- The node at which the edge of an edge statement begins. -/
  | source
  /-- The node at which the edge of an edge statement ends. -/
  | target
  /-- The first node of a generic read. -/
  | first
  /-- The second node of a generic read. -/
  | second
deriving DecidableEq, Repr

namespace NodePlace

def name : NodePlace → String
  | .only => "a node"
  | .source => "the source node"
  | .target => "the target node"
  | .first => "node a"
  | .second => "node b"

end NodePlace

/-- Why the arguments of a call cannot be read. -/
inductive ShapeError where
  /-- An entity is given both a property map and a distance. -/
  | boundTwice
  /-- A group holds a second property map or distance. -/
  | secondBinding (group : Value)
  /-- A group holds a second label. -/
  | secondLabel (group : Value)
  /-- A group holds a value that plays no role. -/
  | noRole (item : Value)
  /-- A clause begins with no known keyword. -/
  | unknownClause (fragment : Value)
  /-- Two clauses play one role. -/
  | repeatedClause (role : ClauseRole) (first second : String)
  /-- No clause says what to return or delete. -/
  | noTerminal
  /-- The arguments are nested less deeply than one unit. -/
  | shallow (rank : Nat) (unitRank : Int)
  /-- A node is given a distance. -/
  | nodeDistance (distance : String) (place : NodePlace)
  /-- An edge to be created is given a distance. -/
  | newEdgeDistance (distance : String)
  /-- Some arguments of a generic read are neither groups nor clauses. -/
  | notGroups (arguments : List Value)
  /-- A generic read is given more than three groups. -/
  | tooManyGroups (count : Nat)
  /-- A path clause stands in a read without an edge. -/
  | pathWithoutEdge (path : String)
  /-- Something other than a text or a text with parameters is given as a statement. -/
  | notStatement (shown : String)
deriving DecidableEq

namespace ShapeError

def message : ShapeError → String
  | boundTwice => "An entity reference takes a property map or a distance, not both"
  | secondBinding group => "More than one property map or distance in " ++ group.shown
  | secondLabel group =>
      "More than one label in " ++ group.shown ++ "; pass several labels as one list"
  | noRole item => "Cannot classify " ++ item.shown ++ " as a property map, label or distance"
  | unknownClause fragment =>
      "Unrecognized clause " ++ fragment.shown ++ "; expected WHERE, SET/REMOVE, " ++
        "RETURN/DELETE/DETACH DELETE or SHORTESTPATH/ALLSHORTESTPATHS"
  | repeatedClause role first second =>
      "Clause role " ++ Text.quoted role.name ++ " given twice: " ++ Text.quoted first ++
        " and " ++ Text.quoted second
  | noTerminal => "A RETURN, DELETE or DETACH DELETE clause is required"
  | shallow rank unitRank =>
      "Your argument rank is " ++ Decimal.naturalText rank ++ "; it must be at least " ++
        Decimal.integerText unitRank
  | nodeDistance distance place =>
      "A distance (" ++ Text.quoted distance ++ ") is only valid on an edge, not on " ++ place.name
  | newEdgeDistance distance =>
      "Cannot create an edge from a distance (" ++ Text.quoted distance ++ ")"
  | notGroups arguments =>
      "Cannot use " ++ Value.shown (.list arguments) ++ " as an entity group or clause"
  | tooManyGroups count =>
      "Expected at most 3 entity groups (a, e, b), got " ++ Decimal.naturalText count
  | pathWithoutEdge path => path ++ " needs an edge or distance group"
  | notStatement shown =>
      "Cannot use " ++ shown ++ " as a statement; expected text or (text, params)"

end ShapeError

end CypherBatch
