import CypherBatch.Pattern
import CypherBatch.Property.Legal
import CypherBatch.Statement

/-!
# Edge statements

An edge runs from a source node to a target node.  The edge group comes first,
then the two node groups.  To save an edge, both nodes are matched by whatever
is given of them, and the edge is merged on its hash; it needs a label and a
legal property map.  To find edges, every group may be left out.
-/

namespace CypherBatch
namespace Render

/-- Save an edge from its three groups.  A map that is not legal gives no statement. -/
def saveEdgeOfGroups (edge source target : Value) : Except ComposeError (Option Statement) := do
  let e ← ComposeError.liftShape (Entity.ofGroup edge)
  if e.labels.isEmpty then throw (.label .newEdge)
  match e.binding with
  | .distance text => throw (.shape (.newEdgeDistance text))
  | .free => return none
  | .props fields =>
      if Value.isLegal (.map fields) then
        let a ← ComposeError.liftShape (Pattern.nodeOfGroup .source source)
        let b ← ComposeError.liftShape (Pattern.nodeOfGroup .target target)
        return some
          { query := "MATCH " ++ Pattern.node .source a ++ ", " ++ Pattern.node .target b ++
              " MERGE (a)-[" ++ Pattern.mergeBody .edge e.labels ++ "]->(b) " ++
              Pattern.upsert .edge ++ " RETURN e"
            params := Pattern.params [(.source, a), (.target, b)] ++
              [(Facet.edge.paramName, .map fields)] }
      else return none

/-- Save an edge; a unit has exactly three groups. -/
def saveEdge : List Value → Except ComposeError (Option Statement)
  | [edge, source, target] => saveEdgeOfGroups edge source target
  | args => .error (.groupCount args.length)

/-- Find edges from three groups, each of which may be null. -/
def findEdgeOfGroups (edge source target : Value) : Except ComposeError Statement := do
  let a ← ComposeError.liftShape (Pattern.nodeOfGroup .source source)
  let e ← ComposeError.liftShape (Entity.ofGroup edge)
  let b ← ComposeError.liftShape (Pattern.nodeOfGroup .target target)
  return { query := "MATCH " ++ Pattern.node .source a ++ "-" ++ Pattern.edge e ++ "->" ++
             Pattern.node .target b ++ " RETURN e"
           params := Pattern.params [(.source, a), (.edge, e), (.target, b)] }

/-- Find edges; a unit has at most three groups. -/
def findEdge : List Value → Except ComposeError Statement
  | [] => findEdgeOfGroups .null .null .null
  | [edge] => findEdgeOfGroups edge .null .null
  | [edge, source] => findEdgeOfGroups edge source .null
  | [edge, source, target] => findEdgeOfGroups edge source target
  | args => .error (.groupCount args.length)

end Render
end CypherBatch
