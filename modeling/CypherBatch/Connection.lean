import CypherBatch.Address
import CypherBatch.Credentials
import CypherBatch.Json.Encoding
import CypherBatch.Json.Printer
import CypherBatch.Response
import CypherBatch.Settings
import CypherBatch.Statement

/-!
# Connections

A connection posts statements to the transaction endpoint, all statements of one
call as one transaction.  It has a client while it is open; `connect` opens it
and `close` closes it.

The client makes a request before it sends it: the request needs an address below
that of the client, and a body that the client can write as JSON.  Which bodies it
can write is up to the client; the one that `connect` gives writes strict JSON.

The server is a script of replies.  A request takes the next reply; when none is
left, the server runs every statement and returns one row with its number.  An
operation never repeats a request: whether a failed transaction is submitted
again is the caller's decision.
-/

namespace CypherBatch

/-- A line of the log that a caller may want to see. -/
inductive LogLine where
  | warning (text : String)
  | error (text : String)
deriving DecidableEq

namespace LogLine

def text : LogLine → String
  | .warning text => "WARNING " ++ text
  | .error text => "ERROR " ++ text

end LogLine

/-- One request as the server receives it. -/
structure Request where
  url : String
  authorization : Option String
  payload : Value
deriving DecidableEq

namespace Request

def verb : String := "POST"

/-- The form in which answers are wanted. -/
def accept : String := "application/json; charset=UTF-8"

end Request

/-- What the server does with a request. -/
inductive Reply where
  | answer (status : Int) (text : String)
  | timeout
  | refused
deriving DecidableEq

/-- Why statements could not be run. -/
inductive SubmitError where
  | notConnected
  | badAddress
  /-- The path for transactions is no text. -/
  | noPath
  | timeout
  | refused
  | status (code : Int)
  /-- The statements cannot be written as JSON, or the answer cannot be read as it. -/
  | unreadable (fault : Json.Fault)
  | invalid (issues : List Issue)
  | rolledBack (faults : List Response.Fault)
deriving DecidableEq

namespace SubmitError

def message? : SubmitError → Option String
  | notConnected => some "Neo4jTransport not initialized. Call initialize() first."
  | rolledBack faults => some (Response.rollbackMessage faults)
  | _ => none

end SubmitError

/-- What an operation did: the requests sent, the lines logged, the replies left and its result. -/
structure Exchange (ε α : Type) where
  requests : List Request
  log : List LogLine
  script : List Reply
  result : Except ε α

/--
An open client: the address below which it sends requests, with which credentials,
and which bodies it cannot write.
-/
structure Client where
  base : Address
  authorization : Option String
  /-- The fault that keeps the client from writing a body as JSON, if there is one. -/
  writeFault? : Value → Option Json.Fault

/-- A client that writes strict JSON. -/
def Client.strict (base : Address) (authorization : Option String) : Client where
  base := base
  authorization := authorization
  writeFault? body := if Json.isStrict body then none else some .overlong

def Address.authorization (a : Address) : Option String :=
  a.credentials?.map fun (user, password) => Credentials.header ⟨user, password⟩

/--
A connection to the endpoint.  Except for the address, what a caller gives is
kept as it is and looked at when it is used.
-/
structure Connection where
  url : String
  auth : Value
  transactionPath : Value
  timeout : Value
  maxConnections : Value
  client : Option Client
  initialized : Bool

namespace Connection

def new (url : String) (auth transactionPath timeout maxConnections : Value) :
    Connection where
  url := Settings.dropSlashes url
  auth := auth
  transactionPath := transactionPath
  timeout := timeout
  maxConnections := maxConnections
  client := none
  initialized := false

/-- Why a connection could not be opened. -/
inductive OpenError where
  /-- The credentials have no colon. -/
  | badCredentials
  /-- The credentials are no text. -/
  | noText
  | badAddress
deriving DecidableEq

def OpenError.message? : OpenError → Option String
  | .badCredentials => some Credentials.formMessage
  | .noText => none
  | .badAddress => none

def authorization (auth : Value) : Except OpenError (Option String) :=
  if auth.isVacant then .ok none
  else
    match auth with
    | .str text =>
        match Credentials.parse? text with
        | some credentials => .ok (some credentials.header)
        | none => .error .badCredentials
    | _ => .error .noText

/-- The client of a connection.  The credentials are read before the address. -/
def newClient (c : Connection) : Except OpenError Client :=
  match authorization c.auth with
  | .error e => .error e
  | .ok header =>
      match Address.base c.url with
      | .error _ => .error .badAddress
      | .ok base => .ok (Client.strict base header)

/-- Open a connection.  An open one stays as it is, and so does one that cannot be opened. -/
def connect (c : Connection) : Connection × Except OpenError Unit :=
  if c.initialized then (c, .ok ())
  else
    match newClient c with
    | .error e => (c, .error e)
    | .ok client => ({ c with client := some client, initialized := true }, .ok ())

def closeWarning (text : String) : LogLine :=
  .warning ("Error closing Neo4jTransport client: " ++ text)

/-- Close a connection.  A client that fails to close, with the given text, is given up all the same. -/
def close (fault : Option String) (c : Connection) : Connection × List LogLine :=
  match c.client with
  | none => (c, [])
  | some _ =>
      ({ c with client := none, initialized := false }, fault.toList.map closeWarning)

/-- The request that submits statements to an address. -/
def requestTo (client : Client) (address : Address) (statements : List Statement) : Request where
  url := address.text
  authorization := client.authorization.or address.authorization
  payload := Statement.batchPayload statements

/-- The address to which a client sends statements: that of the path, if it is text and makes one. -/
def address (c : Connection) (client : Client) : Except SubmitError Address :=
  match c.transactionPath with
  | .str path =>
      match client.base.resolve path with
      | .ok address => .ok address
      | .error _ => .error .badAddress
  | _ => .error .noPath

/-- The request that submits statements.  The address counts before the body is written. -/
def request (c : Connection) (client : Client) (statements : List Statement) :
    Except SubmitError Request :=
  match address c client with
  | .error e => .error e
  | .ok address =>
      let request := requestTo client address statements
      match client.writeFault? request.payload with
      | some fault => .error (.unreadable fault)
      | none => .ok request

/-- The answer to a request when the script has none: the number of each statement. -/
def defaultBody (count : Nat) : Value :=
  .map [("results", .list ((List.range count).map fun (i : Nat) =>
    .map [("columns", .list [.str "n"]),
      ("data", .list [.map [("row", .list [.int i])]])])),
    ("errors", .list [])]

def bodyOfText (text : String) : Except SubmitError Response.Body :=
  match Json.parseBytes text with
  | .error fault => .error (.unreadable fault)
  | .ok v =>
      match Response.Body.check v with
      | .ok body => .ok body
      | .error issues => .error (.invalid issues)

/-- The tables of a reply.  The status counts before the body is read. -/
def tablesOfReply : Reply → Except SubmitError (List Response.Table)
  | .timeout => .error .timeout
  | .refused => .error .refused
  | .answer status text =>
      if status < 200 ∨ 299 < status then .error (.status status)
      else
        match bodyOfText text with
        | .error e => .error e
        | .ok body =>
            if body.faults.isEmpty then .ok body.tables else .error (.rolledBack body.faults)

/-- The line logged about a result: the first fault of a transaction that was rolled back. -/
def logOfResult (count : Nat) : Except SubmitError (List Response.Table) → List LogLine
  | .error (.rolledBack (fault :: _)) =>
      [.error ("Transaction of " ++ Decimal.naturalText count ++ " statement(s) failed: " ++
        fault.code)]
  | _ => []

/-- The next reply of a script, for so many statements, and the replies left. -/
def nextReply (count : Nat) : List Reply → Reply × List Reply
  | [] => (.answer 200 (Json.print (defaultBody count)), [])
  | reply :: rest => (reply, rest)

/--
Run statements as one transaction.  Without statements there is nothing to do,
even on a connection that is not open.
-/
def submit (c : Connection) (statements : List Statement) (script : List Reply) :
    Exchange SubmitError (List Response.Table) :=
  if statements.isEmpty then ⟨[], [], script, .ok []⟩
  else
    match c.client with
    | none => ⟨[], [], script, .error .notConnected⟩
    | some client =>
        match request c client statements with
        | .error e => ⟨[], [], script, .error e⟩
        | .ok request =>
            let (reply, rest) := nextReply statements.length script
            let result := tablesOfReply reply
            ⟨[request], logOfResult statements.length result, rest, result⟩

end Connection
end CypherBatch
