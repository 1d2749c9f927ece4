import CypherBatch.Clause
import CypherBatch.Pattern
import CypherBatch.Statement

/-!
# Generic reads

A generic read takes up to three groups, for a first node, an edge and a second
node, and clauses anywhere among them.  Strings are clauses, everything else is
a group.  Without an edge group only the first node is matched.  A path clause
asks for shortest paths between the two nodes; only the labels and the distance
of the edge group restrict the edges of a path, its property map does not.
-/

namespace CypherBatch
namespace Render

/-- Can the value stand in a generic read? -/
def isGroupOrClause : Value → Bool
  | .str _ | .null | .list _ | .map _ => true
  | _ => false

def groupsOf (args : List Value) : List Value :=
  args.filter fun arg => !arg.isText

def clausesOf (args : List Value) : List Value :=
  args.filter Value.isText

/-- The edge of a path, without its property map. -/
def pathEdge (e : Entity) : Entity :=
  match e.binding with
  | .props _ => ⟨.free, e.labels⟩
  | _ => e

/-- The part of a read behind the first node: an edge and a node, or a path. -/
def graphBody (path : Option String) (e b : Entity) : String :=
  match path with
  | some keyword =>
      ", " ++ Pattern.node .target b ++ ", p=" ++ keyword ++ "((a)-" ++ Pattern.edge e ++ "->(b))"
  | none => "-" ++ Pattern.edge e ++ "->" ++ Pattern.node .target b

/-- A read of its clauses and three groups, each of which may be null. -/
def findGraphOfGroups (clauses : ClauseSet) (first edge second : Value) :
    Except ComposeError Statement := do
  let a ← ComposeError.liftShape (Pattern.nodeOfGroup .first first)
  let head := "MATCH " ++ Pattern.node .source a
  match edge, clauses.path with
  | .null, some path => throw (.shape (.pathWithoutEdge path))
  | .null, none =>
      return { query := head ++ " " ++ clauses.tail
               params := Pattern.params [(.source, a)] }
  | edge, path =>
      let given ← ComposeError.liftShape (Entity.ofGroup edge)
      let b ← ComposeError.liftShape (Pattern.nodeOfGroup .second second)
      let e := if path.isSome then pathEdge given else given
      return { query := head ++ graphBody path e b ++ " " ++ clauses.tail
               params := Pattern.params [(.source, a), (.edge, e), (.target, b)] }

def findGraph (args : List Value) : Except ComposeError Statement := do
  let bad := args.filter fun arg => !isGroupOrClause arg
  if !bad.isEmpty then throw (.shape (.notGroups bad))
  let groups := groupsOf args
  if 3 < groups.length then throw (.shape (.tooManyGroups groups.length))
  let clauses ← ComposeError.liftShape (ClauseSet.ofFragments (clausesOf args))
  findGraphOfGroups clauses (groups.getD 0 .null) (groups.getD 1 .null) (groups.getD 2 .null)

end Render
end CypherBatch
