import CypherBatch.Value

/-!
# Statements

A statement is the text of a query and the map of its parameters.  This module
also defines the form in which the endpoint takes it.
-/

namespace CypherBatch

/-- One statement: its text and its parameters. -/
structure Statement where
  query : String
  params : PropertyMap
deriving DecidableEq

namespace Statement

/-- The statement as the endpoint takes it, asking for rows. -/
def payload (s : Statement) : Value :=
  .map [("statement", .str s.query), ("parameters", .map s.params),
    ("resultDataContents", .list [.str "row"])]

/-- The body of a request that submits statements as one transaction. -/
def batchPayload (statements : List Statement) : Value :=
  .map [("statements", .list (statements.map payload))]

end Statement
end CypherBatch
