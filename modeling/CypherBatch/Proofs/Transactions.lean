import CypherBatch.Session
import CypherBatch.Proofs.Batches

/-!
# One operation, at most one transaction

An operation of a session gives statements and submits them.  A submission has four
ways out, each with its equation; only the last one sends a request, and then the
first reply of the script settles the result, whatever it is.

So an operation that cannot be composed, that composes nothing, or that finds no
client sends nothing.  Any other one sends one request with all its statements,
unless the client cannot make that request: the path of the connection makes no
address under that of the client, or the client cannot write the statements.  What
a client can write is left open here.
-/

namespace CypherBatch

open Outcome

namespace Connection

section Submission

variable {c : Connection} {ss : List Statement} {script : List Reply}

theorem submit_nil (c : Connection) (script : List Reply) :
    c.submit [] script = ⟨[], [], script, .ok []⟩ := by
  rfl

theorem submit_of_client_eq_none
    (hss : ss ≠ []) (hclient : c.client = none) :
    c.submit ss script = ⟨[], [], script, .error .notConnected⟩ := by
  simp [submit, hss, hclient]

theorem submit_of_request_eq_error
    {client : Client} {e : SubmitError}
    (hss : ss ≠ []) (hclient : c.client = some client)
    (hrequest : c.request client ss = .error e) :
    c.submit ss script = ⟨[], [], script, .error e⟩ := by
  simp [submit, hss, hclient, hrequest]

/-- A request takes the first reply, or the one of a server that has no script. -/
theorem submit_of_request_eq_ok
    {client : Client} {request : Request}
    (hss : ss ≠ []) (hclient : c.client = some client)
    (hrequest : c.request client ss = .ok request) :
    c.submit ss script =
      ⟨[request], logOfResult ss.length (tablesOfReply (nextReply ss.length script).1),
        script.drop 1, tablesOfReply (nextReply ss.length script).1⟩ := by
  cases script <;> simp [submit, hss, hclient, hrequest, nextReply]

theorem request_of_address_eq_error
    {client : Client} {e : SubmitError} (haddress : c.address client = .error e) :
    c.request client ss = .error e := by
  simp [request, haddress]

theorem request_of_writeFault
    {client : Client} {address : Address} {fault : Json.Fault}
    (haddress : c.address client = .ok address)
    (hwrite : client.writeFault? (Statement.batchPayload ss) = some fault) :
    c.request client ss = .error (.unreadable fault) := by
  simp [request, haddress, requestTo, hwrite]

/-- A request can be made when it has an address and the client can write the statements. -/
theorem request_eq_ok_iff {client : Client} {request : Request} :
    c.request client ss = .ok request ↔
      ∃ address, c.address client = .ok address ∧
        client.writeFault? (Statement.batchPayload ss) = none ∧
        request = requestTo client address ss := by
  cases haddress : c.address client with
  | error e =>
      simp [request_of_address_eq_error haddress]
  | ok address =>
      cases hwrite : client.writeFault? (Statement.batchPayload ss) with
      | some fault =>
          simp [request_of_writeFault haddress hwrite]
      | none =>
          simp [Connection.request, haddress, requestTo, hwrite, eq_comm]

/-- A submission has nothing to send, fails before it sends anything, or sends one request with
all statements through the client. -/
theorem submit_cases (c : Connection) (ss : List Statement) (script : List Reply) :
    (ss = [] ∧ c.submit ss script = ⟨[], [], script, .ok []⟩) ∨
      (ss ≠ [] ∧ ∃ e, c.submit ss script = ⟨[], [], script, .error e⟩) ∨
      ∃ client address log, ss ≠ [] ∧ c.client = some client ∧
        c.submit ss script =
          ⟨[requestTo client address ss], log, script.drop 1,
            tablesOfReply (nextReply ss.length script).1⟩ := by
  by_cases hss : ss = []
  · exact Or.inl ⟨hss, by rw [hss, submit_nil]⟩
  · refine Or.inr ?_
    cases hclient : c.client with
    | none =>
        exact Or.inl ⟨hss, _, submit_of_client_eq_none hss hclient⟩
    | some client =>
        cases hrequest : c.request client ss with
        | error e =>
            exact Or.inl ⟨hss, e, submit_of_request_eq_error hss hclient hrequest⟩
        | ok request =>
            obtain ⟨address, -, -, rfl⟩ := request_eq_ok_iff.1 hrequest
            exact Or.inr ⟨client, address, _, hss, rfl,
              submit_of_request_eq_ok hss hclient hrequest⟩

/-- What a submission sends, it sends through the client. -/
theorem exists_client_of_submitted
    {request : Request} (h : request ∈ (c.submit ss script).requests) :
    ∃ client address, c.client = some client ∧ request = requestTo client address ss := by
  obtain ⟨-, hsubmit⟩ | ⟨-, e, hsubmit⟩ | ⟨client, address, log, -, hclient, hsubmit⟩ :=
    c.submit_cases ss script
  · rw [hsubmit] at h
    cases h
  · rw [hsubmit] at h
    cases h
  · rw [hsubmit] at h
    exact ⟨client, address, hclient, List.mem_singleton.1 h⟩

end Submission

end Connection

namespace Session

/-- An operation of a session: statements as a caller gives them, or a batch to compose. -/
inductive Call where
  | query (input : StatementInput)
  | operate (operation : Operation) (args : List Value)

namespace Call

def step : Call → Step
  | query input => .query input
  | operate operation args => .operate operation args

/-- The statements that an operation gives, in order, or why it gives none. -/
def statements : Call → Except SessionError (List Statement)
  | query input => input.statements.mapError .input
  | operate operation args => (operation.statements args).mapError .compose

end Call

/-- What a submission results in, as a result of a step. -/
def ofSubmit : Except SubmitError (List Response.Table) → Except SessionError Result
  | .ok tables => .ok (.tables tables)
  | .error e => .error (.submit e)

theorem submitted_eq
    (before : List LogLine) (c : Connection) (ss : List Statement) (script : List Reply) :
    submitted before c ss script =
      ⟨(c.submit ss script).requests, before ++ (c.submit ss script).log,
        (c.submit ss script).script, ofSubmit (c.submit ss script).result⟩ := by
  unfold submitted
  cases h : (c.submit ss script).result <;> simp [h, ofSubmit]

/-- An operation fails before it touches the connection, or submits its statements. -/
theorem step_call_cases (c : Connection) (call : Call) (script : List Reply) :
    (∃ e, call.statements = .error e ∧ step c call.step script = ⟨c, failed e script⟩) ∨
      ∃ ss before, call.statements = .ok ss ∧
        step c call.step script = ⟨c, submitted before c ss script⟩ := by
  cases call with
  | query input =>
      simp only [Call.statements, Call.step, step, runQuery]
      cases input.statements with
      | error e =>
          exact Or.inl ⟨_, rfl, rfl⟩
      | ok ss =>
          exact Or.inr ⟨ss, [], rfl, rfl⟩
  | operate operation args =>
      simp only [Call.statements, Call.step, step, runOperation, Operation.statements]
      cases operation.compose args with
      | error e =>
          exact Or.inl ⟨_, rfl, rfl⟩
      | ok batch =>
          exact Or.inr ⟨batch.statements, batchLog batch, rfl, rfl⟩

/-- What an operation on a connection may do, from its statements to its outcome. -/
structure OneTransaction (c : Connection) (call : Call) (script : List Reply) (o : Outcome) :
    Prop where
  /-- No operation changes the connection. -/
  unchanged : o.connection = c
  /-- Where no statements can be had, nothing is sent. -/
  not_composed : ∀ e, call.statements = .error e →
    o.exchange.requests = [] ∧ o.exchange.result = .error e
  /-- Where there are no statements, nothing is sent, be the connection open or not. -/
  nothing_to_do : call.statements = .ok [] →
    o.exchange.requests = [] ∧ o.exchange.result = .ok (.tables [])
  /-- Without a client nothing is sent. -/
  not_connected : ∀ ss, call.statements = .ok ss → ss ≠ [] → c.client = none →
    o.exchange.requests = [] ∧ o.exchange.result = .error (.submit .notConnected)
  /-- Without an address nothing is sent. -/
  no_address : ∀ ss client e, call.statements = .ok ss → ss ≠ [] → c.client = some client →
    c.address client = .error e →
    o.exchange.requests = [] ∧ o.exchange.result = .error (.submit e)
  /-- What the client cannot write is not sent. -/
  not_written : ∀ ss client address fault, call.statements = .ok ss → ss ≠ [] →
    c.client = some client → c.address client = .ok address →
    client.writeFault? (Statement.batchPayload ss) = some fault →
    o.exchange.requests = [] ∧ o.exchange.result = .error (.submit (.unreadable fault))
  /-- Otherwise one request carries all statements in order, and the next reply settles the result. -/
  sent : ∀ ss client address, call.statements = .ok ss → ss ≠ [] → c.client = some client →
    c.address client = .ok address → client.writeFault? (Statement.batchPayload ss) = none →
    o.exchange.requests = [
      { url := address.text
        authorization := client.authorization.or address.authorization
        payload := .map [("statements", .list (ss.map fun s => .map [("statement", .str s.query),
          ("parameters", .map s.params), ("resultDataContents", .list [.str "row"])]))] }] ∧
    o.exchange.script = script.drop 1 ∧
    o.exchange.result =
      ofSubmit (Connection.tablesOfReply (Connection.nextReply ss.length script).1)

/-- An operation is at most one transaction, on every connection, whatever its client can write,
and for every reply. -/
theorem one_transaction (c : Connection) (call : Call) (script : List Reply) :
    OneTransaction c call script (step c call.step script) := by
  obtain ⟨e, hstatements, hstep⟩ | ⟨ss, before, hstatements, hstep⟩ :=
    step_call_cases c call script
  · rw [hstep]
    constructor <;> simp [hstatements, failed]
  · rw [hstep, submitted_eq]
    have hgiven {ss' : List Statement} (h : call.statements = .ok ss') : ss' = ss := by
      simpa [hstatements] using h.symm
    constructor
    · rfl
    · intro e h
      simp [hstatements] at h
    · intro h
      obtain rfl := hgiven h
      rw [Connection.submit_nil]
      exact ⟨rfl, rfl⟩
    · intro ss' h hne hclient
      obtain rfl := hgiven h
      rw [Connection.submit_of_client_eq_none hne hclient]
      exact ⟨rfl, rfl⟩
    · intro ss' client e h hne hclient haddress
      obtain rfl := hgiven h
      rw [Connection.submit_of_request_eq_error hne hclient
        (Connection.request_of_address_eq_error haddress)]
      exact ⟨rfl, rfl⟩
    · intro ss' client address fault h hne hclient haddress hwrite
      obtain rfl := hgiven h
      rw [Connection.submit_of_request_eq_error hne hclient
        (Connection.request_of_writeFault haddress hwrite)]
      exact ⟨rfl, rfl⟩
    · intro ss' client address h hne hclient haddress hwrite
      obtain rfl := hgiven h
      rw [Connection.submit_of_request_eq_ok hne hclient
        (Connection.request_eq_ok_iff.2 ⟨address, haddress, hwrite, rfl⟩)]
      exact ⟨rfl, rfl, rfl⟩

/-- A path that makes no address keeps an open connection from sending what was composed. -/
theorem bad_path_sends_nothing :
    let c := (step (Connection.new "http://localhost:7474" .null
      (.str "http://localhost:747x/commit") (.int 30) (.int 16)) .connect []).connection
    c.client.isSome = true ∧
      (Call.operate .getNode [.str "alpha"]).statements =
        .ok [⟨"MATCH (u:alpha) RETURN u", []⟩] ∧
      (step c (Call.operate .getNode [.str "alpha"]).step []).exchange.requests = [] := by
  decide +kernel

/-- A number that is not finite is composed, and then strict JSON cannot carry it. -/
example :
    let c := (step (Connection.new "http://localhost:7474" .null (.str Settings.defaultPath)
      (.int 30) (.int 16)) .connect []).connection
    let call := Call.operate .getNode [.map [("k", .float Double.nan)]]
    call.statements = .ok [⟨"MATCH (u {k: {prop}.k}) RETURN u",
      [("prop", .map [("k", .float Double.nan)])]⟩] ∧
      (step c call.step []).exchange.requests = [] ∧
      (step c call.step []).exchange.result = .error (.submit (.unreadable .overlong)) := by
  decide +kernel

end Session
end CypherBatch
