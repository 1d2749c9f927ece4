import CypherBatch.Compose
import CypherBatch.Connection
import CypherBatch.StatementInput

/-!
# Sessions

A session runs operations on one connection.  Everything is composed in memory
before the one request is sent, so that a batch is committed or refused as a
whole; an operation that cannot be composed sends nothing.

`step` is the whole behaviour of a session as a function: from a connection and
the replies of the server to the connection afterwards, the requests, the log
and the result.
-/

namespace CypherBatch

/-- Why a step of a session fails. -/
inductive SessionError where
  | compose (cause : ComposeError)
  | input (cause : InputError)
  | submit (cause : SubmitError)
  | opening (cause : Connection.OpenError)
deriving DecidableEq

namespace Session

/-- One step of a session. -/
inductive Step where
  /-- Open the connection. -/
  | connect
  /-- Close the connection; the client may fail to close, with a text. -/
  | close (fault : Option String)
  /-- Begin a scope in which the connection is open. -/
  | enter
  /-- End the scope; the client may fail to close, with a text. -/
  | exit (fault : Option String)
  /-- Ask for the client. -/
  | client
  /-- Submit statements already made. -/
  | submit (statements : List Statement)
  /-- Submit statements as a caller gives them. -/
  | query (input : StatementInput)
  /-- Compose a batch and submit it. -/
  | operate (operation : Operation) (args : List Value)
deriving DecidableEq

/-- What a step that succeeds gives. -/
inductive Result where
  | nothing
  | done
  | tables (tables : List Response.Table)
deriving DecidableEq

/-- A connection after a step, and what the step did. -/
structure Outcome where
  connection : Connection
  exchange : Exchange SessionError Result

def batchLog (batch : Batch) : List LogLine :=
  batch.skipped?.toList.map fun skipped => .warning skipped.message

/-- What the submission of statements does, after some lines were logged. -/
def submitted (before : List LogLine) (c : Connection) (statements : List Statement)
    (script : List Reply) : Exchange SessionError Result :=
  let sent := c.submit statements script
  { requests := sent.requests
    log := before ++ sent.log
    script := sent.script
    result :=
      match sent.result with
      | .ok tables => .ok (.tables tables)
      | .error e => .error (.submit e) }

/-- What a failure before any request does. -/
def failed (e : SessionError) (script : List Reply) : Exchange SessionError Result :=
  ⟨[], [], script, .error e⟩

def runQuery (c : Connection) (input : StatementInput) (script : List Reply) :
    Exchange SessionError Result :=
  match input.statements with
  | .error e => failed (.input e) script
  | .ok statements => submitted [] c statements script

def runOperation (c : Connection) (operation : Operation) (args : List Value)
    (script : List Reply) : Exchange SessionError Result :=
  match operation.compose args with
  | .error e => failed (.compose e) script
  | .ok batch => submitted (batchLog batch) c batch.statements script

/-- Open the connection, with the given result if that succeeds. -/
def opened (c : Connection) (result : Result) (script : List Reply) : Outcome :=
  match c.connect with
  | (c, .ok ()) => ⟨c, ⟨[], [], script, .ok result⟩⟩
  | (c, .error e) => ⟨c, failed (.opening e) script⟩

def closed (c : Connection) (fault : Option String) (script : List Reply) : Outcome :=
  let (c, log) := c.close fault
  ⟨c, ⟨[], log, script, .ok .nothing⟩⟩

def step (c : Connection) (s : Step) (script : List Reply) : Outcome :=
  match s with
  | .connect => opened c .nothing script
  | .enter => opened c .done script
  | .close fault => closed c fault script
  | .exit fault => closed c fault script
  | .client =>
      if c.client.isSome then ⟨c, ⟨[], [], script, .ok .done⟩⟩
      else ⟨c, failed (.submit .notConnected) script⟩
  | .submit statements => ⟨c, submitted [] c statements script⟩
  | .query input => ⟨c, runQuery c input script⟩
  | .operate operation args => ⟨c, runOperation c operation args script⟩

/-- Run steps one after another, each with a script of its own. -/
def run (c : Connection) : List (Step × List Reply) → List Outcome
  | [] => []
  | (s, script) :: rest =>
      let outcome := step c s script
      outcome :: run outcome.connection rest

/-- Why no session can be had from settings. -/
inductive StartError where
  | noCredentials
  | opening (cause : Connection.OpenError)
deriving DecidableEq

def StartError.message? : StartError → Option String
  | .noCredentials => some "You must at least supply NEO4J_AUTH='<username>:<password>'."
  | .opening e => e.message?

/-- The open connection of a session under the given settings, which must have credentials. -/
def start (settings : Settings) : Except StartError Connection :=
  match settings.auth with
  | none => .error .noCredentials
  | some auth =>
      let c := Connection.new settings.url (.str auth) (.str settings.transactionPath)
        (.float settings.timeout) (.int settings.maxConnections)
      match c.connect with
      | (c, .ok ()) => .ok c
      | (_, .error e) => .error (.opening e)

end Session
end CypherBatch
