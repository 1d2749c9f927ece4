import CypherBatch.Property.Legalize
import CypherBatch.Session

/-!
# Loading a graph document

A graph document is a JSON object with a list of nodes and a list of edges.  A
node is a list of a property map and its labels; an edge is a list of three
groups, the first of which begins with the property map of the edge.  Loading
makes these maps legal, composes all statements, and submits the nodes in one
transaction and the edges in a second one.  A dry run prints the statements
instead.
-/

namespace CypherBatch
namespace Loader

/-- Why a document cannot be loaded. -/
inductive Error where
  | noFile
  | directory
  | unreadable (fault : Json.Fault)
  /-- The document, or something that is to be a property map, is no object. -/
  | notObject
  /-- Something that is to be a list has no items. -/
  | notItems
  /-- An entry has more or fewer items than its kind has. -/
  | itemCount
  | identity (cause : IdentityError)
  | compose (cause : ComposeError)
  | start (cause : Session.StartError)
  | submit (cause : SubmitError)
deriving DecidableEq

/-- How to load a document. -/
structure Options where
  hashBy : Value
  dryRun : Bool
deriving DecidableEq

/-- How many statements were composed and how many rows came back; a dry run has no rows. -/
structure Stats where
  nodeStatements : Nat
  edgeStatements : Nat
  returned? : Option (Nat × Nat)
deriving DecidableEq

/-- What loading did. -/
structure Report where
  printed : List String
  requests : List Request
  log : List LogLine
  result : Except Error Stats

/-- Who writes the maps, when, and where their identity is taken from. -/
structure Stamp where
  hashBy : Value
  updatedBy : String
  now : Instant

/-- The items of a value that is to be a list. -/
def itemsOf (v : Value) : Except Error (List Value) :=
  match v.items? with
  | some items => .ok items
  | none => .error .notItems

/-- The entry with its first item, a property map, made legal. -/
def legalEntry (stamp : Stamp) (entry : Value) : Except Error Value := do
  match ← itemsOf entry with
  | [] => throw .itemCount
  | .map fields :: labels =>
      match PropertyMap.legalize stamp.hashBy (.str stamp.updatedBy) stamp.now fields with
      | .ok legal => return .list (.map legal :: labels)
      | .error e => throw (.identity e)
  | _ :: _ => throw .notObject

def legalNodes (stamp : Stamp) (nodes : Value) : Except Error (List Value) := do
  let entries ← itemsOf nodes
  entries.mapM (legalEntry stamp)

/-- An edge with its first group made legal. -/
def legalEdge (stamp : Stamp) (edge : Value) : Except Error Value := do
  match ← itemsOf edge with
  | [group, source, target] =>
      let group ← legalEntry stamp group
      return .list [group, source, target]
  | _ => throw .itemCount

def legalEdges (stamp : Stamp) (edges : Value) : Except Error (List Value) := do
  let entries ← itemsOf edges
  entries.mapM (legalEdge stamp)

/-- The legal nodes and edges of a document. -/
def entriesOf (stamp : Stamp) (text : String) : Except Error (List Value × List Value) := do
  match Json.parse text with
  | .error fault => throw (.unreadable fault)
  | .ok (.map document) =>
      let nodes ← legalNodes stamp ((PropertyMap.get? document "nodes").getD (.list []))
      let edges ← legalEdges stamp ((PropertyMap.get? document "edges").getD (.list []))
      return (nodes, edges)
  | .ok _ => throw .notObject

/-- The batch of a list of entries, given to an operation as one boxed argument. -/
def batchOf (operation : Operation) (entries : List Value) : Except ComposeError Batch :=
  if entries.isEmpty then .ok ⟨[], none⟩ else operation.compose [.list entries]

/-- What was composed from a document. -/
structure Composed where
  nodes : List Statement
  edges : List Statement

/-- The statements of a document, with the lines logged even when composing fails. -/
def compose (stamp : Stamp) (text : String) : List LogLine × Except Error Composed :=
  match entriesOf stamp text with
  | .error e => ([], .error e)
  | .ok (nodes, edges) =>
      match batchOf .addNode nodes with
      | .error e => ([], .error (.compose e))
      | .ok nodeBatch =>
          match batchOf .addEdge edges with
          | .error e => (Session.batchLog nodeBatch, .error (.compose e))
          | .ok edgeBatch =>
              (Session.batchLog nodeBatch ++ Session.batchLog edgeBatch,
                .ok ⟨nodeBatch.statements, edgeBatch.statements⟩)

def rowCount (tables : List Response.Table) : Nat :=
  tables.foldl (fun count table => count + table.rows.length) 0

/-- Submit the nodes and, if that succeeds, the edges. -/
def submitBoth (c : Connection) (composed : Composed) (script : List Reply) : Report :=
  let first := c.submit composed.nodes script
  match first.result with
  | .error e => ⟨[], first.requests, first.log, .error (.submit e)⟩
  | .ok nodeTables =>
      let second := c.submit composed.edges first.script
      let requests := first.requests ++ second.requests
      let log := first.log ++ second.log
      match second.result with
      | .error e => ⟨[], requests, log, .error (.submit e)⟩
      | .ok edgeTables =>
          ⟨[], requests, log, .ok
            { nodeStatements := composed.nodes.length
              edgeStatements := composed.edges.length
              returned? := some (rowCount nodeTables, rowCount edgeTables) }⟩

/-- Submit what was composed, in a session under the given settings. -/
def submitAll (settings : Settings) (composed : Composed) (script : List Reply) : Report :=
  match Session.start settings with
  | .error e => ⟨[], [], [], .error (.start e)⟩
  | .ok c => submitBoth c composed script

def printAll (composed : Composed) : Report :=
  ⟨(composed.nodes ++ composed.edges).map Statement.query, [], [], .ok
    { nodeStatements := composed.nodes.length
      edgeStatements := composed.edges.length
      returned? := none }⟩

def loadText (settings : Settings) (options : Options) (now : Instant) (script : List Reply)
    (text : String) : Report :=
  match compose ⟨options.hashBy, settings.updatedBy, now⟩ text with
  | (log, .error e) => ⟨[], [], log, .error e⟩
  | (log, .ok composed) =>
      let report := if options.dryRun then printAll composed else submitAll settings composed script
      { report with log := log ++ report.log }

/-- What is found under a path. -/
inductive Source where
  | file (text : String)
  | directory
  | nothing
deriving DecidableEq

/-- Load what is found under a path, which must be a file. -/
def load (settings : Settings) (options : Options) (now : Instant) (script : List Reply)
    (source : Source) : Report :=
  match source with
  | .nothing => ⟨[], [], [], .error .noFile⟩
  | .directory => ⟨[], [], [], .error .directory⟩
  | .file text => loadText settings options now script text

end Loader
end CypherBatch
