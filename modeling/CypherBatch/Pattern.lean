import CypherBatch.ComposeError
import CypherBatch.Entity
import CypherBatch.Name

/-!
# Patterns

A statement binds a small fixed set of variables: `u` for the node of a node
statement, `a`, `e` and `b` for the source, the edge and the target of an edge
statement, and `p` for a path.  Each variable but the last has a parameter that
carries its property map.

Property values never stand in the text.  A property map stands there as a
literal map of placeholders, one for each key, and the map itself travels among
the parameters.  An entity without properties has neither.
-/

namespace CypherBatch

/-- A variable of a pattern that can have properties. -/
inductive Facet where
  | node
  | source
  | edge
  | target
deriving DecidableEq, Repr

namespace Facet

def varName : Facet → String
  | .node => "u"
  | .source => "a"
  | .edge => "e"
  | .target => "b"

/-- The parameter that carries the property map of the variable. -/
def paramName : Facet → String
  | .node => "prop"
  | .source => "propA"
  | .edge => "propE"
  | .target => "propB"

end Facet

namespace Pattern

/-- A reference to a parameter. -/
def placeholder (param : String) : String :=
  "\x7b" ++ param ++ "\x7d"

/-- One field of a literal map: the key and the placeholder of its value. -/
def literalField (param key : String) : String :=
  Name.quote key ++ ": " ++ placeholder param ++ "." ++ Name.quote key

/-- The literal map of placeholders for the given keys; empty without keys. -/
def literal (param : String) (keys : List String) : String :=
  if keys.isEmpty then ""
  else "\x7b" ++ String.intercalate ", " (keys.map (literalField param)) ++ "\x7d"

/-- The keys by which a pattern binds an entity. -/
def boundKeys (x : Entity) : List String :=
  match x.props? with
  | some fields => PropertyMap.keys fields
  | none => []

/-- The distance of an entity as it stands in a pattern. -/
def distanceText (x : Entity) : String :=
  match x.distance? with
  | some text => Value.distanceText (.str text)
  | none => ""

/-- The variable with its labels, then the literal map or the distance. -/
def body (facet : Facet) (x : Entity) : String :=
  let rest := [literal facet.paramName (boundKeys x), distanceText x].filter (· ≠ "")
  String.intercalate " " ((facet.varName ++ Name.labelText x.labels) :: rest)

def node (facet : Facet) (x : Entity) : String :=
  "(" ++ body facet x ++ ")"

def edge (x : Entity) : String :=
  "[" ++ body .edge x ++ "]"

/-- The parameters of the facets that have properties. -/
def params (facets : List (Facet × Entity)) : PropertyMap :=
  facets.filterMap fun (facet, x) =>
    x.boundProps?.map fun fields => (facet.paramName, .map fields)

/-- The fields of a stored entity that record its creation, and the audit field each is taken from. -/
def provenance : List (String × String) :=
  [("created_by", "updated_by"), ("created_when", "updated_when")]

/--
What happens on creation and on a match: a new entity takes all properties and
its provenance, one that is there already has the properties merged in.
-/
def upsert (facet : Facet) : String :=
  let var := facet.varName
  let param := placeholder facet.paramName
  let stamps := provenance.map fun (created, updated) =>
    var ++ "." ++ created ++ " = " ++ param ++ "." ++ updated
  "ON CREATE SET " ++ var ++ " = " ++ param ++ ", " ++ String.intercalate ", " stamps ++
    " ON MATCH SET " ++ var ++ " += " ++ param

/-- The labels of an entity to be merged, keyed by its hash. -/
def mergeBody (facet : Facet) (labels : List String) : String :=
  facet.varName ++ Name.labelText labels ++ " \x7bhash: " ++ placeholder facet.paramName ++
    ".hash\x7d"

/-- The node that a group describes; it cannot have a distance. -/
def nodeOfGroup (place : NodePlace) (group : Value) : Except ShapeError Entity :=
  match Entity.ofGroup group with
  | .error e => .error e
  | .ok x =>
      match x.distance? with
      | some text => .error (.nodeDistance text place)
      | none => .ok x

end Pattern
end CypherBatch
