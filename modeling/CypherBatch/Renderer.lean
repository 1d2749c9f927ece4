import CypherBatch.Render.Edge
import CypherBatch.Render.Graph
import CypherBatch.Render.Node

/-!
# Renderers

A renderer writes the statement of one unit.  Only the renderers that save an
entity may have no statement for a unit, because its property map is not legal.
-/

namespace CypherBatch

/-- A way of writing the statement of one unit. -/
inductive Renderer where
  | saveNode
  | findNode
  | saveEdge
  | findEdge
  | findGraph
deriving DecidableEq, Repr

namespace Renderer

def all : List Renderer :=
  [.saveNode, .findNode, .saveEdge, .findEdge, .findGraph]

def name : Renderer → String
  | .saveNode => "push_node"
  | .findNode => "pull_node"
  | .saveEdge => "push_edge"
  | .findEdge => "pull_edge"
  | .findGraph => "pull"

/-- The statement of one unit, if it has one. -/
def render : Renderer → List Value → Except ComposeError (Option Statement)
  | .saveNode, args => Render.saveNode args
  | .findNode, args => (Render.findNode args).map some
  | .saveEdge, args => Render.saveEdge args
  | .findEdge, args => (Render.findEdge args).map some
  | .findGraph, args => (Render.findGraph args).map some

end Renderer
end CypherBatch
