import CypherBatch.Pattern
import CypherBatch.Property.Legal
import CypherBatch.Statement

/-!
# Node statements

A node is saved by merging on its hash, or found by its labels and properties.
The unit is one group, given as one argument or as its parts.
-/

namespace CypherBatch
namespace Render

/-- The group that the arguments of a node statement are: one argument alone is the group. -/
def nodeGroup : List Value → Value
  | [group] => group
  | parts => .list parts

/-- Save a node.  A node whose property map is not legal gives no statement. -/
def saveNode (args : List Value) : Except ComposeError (Option Statement) := do
  let x ← ComposeError.liftShape (Pattern.nodeOfGroup .only (nodeGroup args))
  match x.props? with
  | none => return none
  | some fields =>
      if Value.isLegal (.map fields) then
        return some
          { query := "MERGE (" ++ Pattern.mergeBody .node x.labels ++ ") " ++
              Pattern.upsert .node ++ " RETURN u"
            params := [(Facet.node.paramName, .map fields)] }
      else return none

/-- Find nodes.  Without properties and labels every node is found. -/
def findNode (args : List Value) : Except ComposeError Statement := do
  let x ← ComposeError.liftShape (Pattern.nodeOfGroup .only (nodeGroup args))
  return { query := "MATCH " ++ Pattern.node .node x ++ " RETURN u"
           params := Pattern.params [(.node, x)] }

end Render
end CypherBatch
