import CypherBatch.Proofs.Transactions

/-!
# The life cycle of a connection

A connection is made without a client.  Whatever a session does with it afterwards,
it is in one of two stages: as it was made, or open with the one client that its
address and credentials give.  Opening leads to the second stage or fails and
changes nothing, closing leads back to the first, and every other step keeps the
stage.

The connection as it was made is therefore all that a closed connection remembers,
and opening it again does what opening it first did.  That depends on its credentials
and its address alone.
-/

namespace CypherBatch
namespace Connection

/-- Has the connection neither a client nor the mark of an open one? -/
def IsClosed (c : Connection) : Prop :=
  c.client = none ∧ c.initialized = false

/-- The connection with a client. -/
def opened (c : Connection) (client : Client) : Connection :=
  { c with client := some client, initialized := true }

/-- Can the connection be opened, from how it was made?

It has no credentials or such with a colon, and an address that can be read.
-/
structure CanOpen (c : Connection) : Prop where
  credentials : c.auth.isVacant = true ∨ ∃ text, c.auth = .str text ∧ ':' ∈ text.toList
  address : ∃ base, Address.base c.url = .ok base

/-- Credentials can be read exactly when they are missing or have a colon. -/
theorem exists_authorization_iff {auth : Value} :
    (∃ header, authorization auth = .ok header) ↔
      auth.isVacant = true ∨ ∃ text, auth = .str text ∧ ':' ∈ text.toList := by
  unfold authorization
  by_cases hvacant : auth.isVacant = true
  · simp [hvacant]
  · rw [if_neg hvacant, or_iff_right hvacant]
    cases auth with
    | str text =>
        simp only [Value.str.injEq, exists_eq_left', ← Credentials.parse?_isSome_iff]
        cases Credentials.parse? text <;> simp
    | null | bool | int | float | list | map =>
        simp

/-- A client can be made exactly for what can be opened. -/
theorem exists_newClient_iff {c : Connection} :
    (∃ client, c.newClient = .ok client) ↔ c.CanOpen := by
  constructor
  · rintro ⟨client, hclient⟩
    unfold newClient at hclient
    split at hclient
    · cases hclient
    · rename_i header hheader
      split at hclient
      · cases hclient
      · rename_i base hbase
        exact ⟨exists_authorization_iff.1 ⟨header, hheader⟩, base, hbase⟩
  · rintro ⟨hcredentials, base, hbase⟩
    obtain ⟨header, hheader⟩ := exists_authorization_iff.2 hcredentials
    exact ⟨Client.strict base header, by simp [newClient, hheader, hbase]⟩

/-- The two stages of a connection, from how it was made. -/
inductive Stage (start : Connection) : Connection → Prop
  | closed : Stage start start
  | opened {client : Client} (hclient : start.newClient = .ok client) :
      Stage start (start.opened client)

theorem isClosed_new (url : String) (auth path timeout maxConnections : Value) :
    (new url auth path timeout maxConnections).IsClosed :=
  ⟨rfl, rfl⟩

section Stages

variable {start c : Connection}

theorem connect_of_newClient_eq_ok
    (hstart : start.IsClosed) {client : Client} (hclient : start.newClient = .ok client) :
    start.connect = (start.opened client, .ok ()) := by
  simp [connect, hstart.2, hclient, opened]

/-- A connection that cannot be opened stays as it is. -/
theorem connect_of_newClient_eq_error
    (hstart : start.IsClosed) {e : OpenError} (hclient : start.newClient = .error e) :
    start.connect = (start, .error e) := by
  simp [connect, hstart.2, hclient]

/-- Opening an open connection does nothing. -/
theorem connect_opened (start : Connection) (client : Client) :
    (start.opened client).connect = (start.opened client, .ok ()) := by
  rfl

/-- Closing gives back the connection as it was made, whether the client fails to close or not. -/
theorem Stage.close_eq (hstart : start.IsClosed) (h : Stage start c) (fault : Option String) :
    (c.close fault).1 = start := by
  cases h with
  | closed =>
      simp [close, hstart.1]
  | opened hclient =>
      obtain ⟨hnone, hoff⟩ := hstart
      simp only [close, Connection.opened, ← hnone, ← hoff]

theorem Stage.initialized_eq (hstart : start.IsClosed) (h : Stage start c) :
    c.initialized = c.client.isSome := by
  cases h with
  | closed =>
      simp [hstart.1, hstart.2]
  | opened hclient =>
      rfl

/-- A connection with a client is the open one, and could be opened. -/
theorem Stage.eq_opened
    (hstart : start.IsClosed) (h : Stage start c) (hc : c.client ≠ none) :
    ∃ client, start.newClient = .ok client ∧ c = start.opened client := by
  cases h with
  | closed =>
      exact absurd hstart.1 hc
  | opened hclient =>
      exact ⟨_, hclient, rfl⟩

/-- Opening gives the open connection, or fails on a closed one and changes nothing. -/
theorem Stage.connect_cases (hstart : start.IsClosed) (h : Stage start c) :
    (∃ client, start.newClient = .ok client ∧ c.connect = (start.opened client, .ok ())) ∨
      ∃ e, start.newClient = .error e ∧ c = start ∧ c.connect = (c, .error e) := by
  cases h with
  | closed =>
      cases hclient : start.newClient with
      | ok client =>
          exact Or.inl ⟨client, rfl, connect_of_newClient_eq_ok hstart hclient⟩
      | error e =>
          exact Or.inr ⟨e, rfl, rfl, connect_of_newClient_eq_error hstart hclient⟩
  | @opened client hclient =>
      exact Or.inl ⟨client, hclient, connect_opened start client⟩

end Stages

end Connection

namespace Session

open Connection

/-- Does the step open the connection? -/
def Step.opens : Step → Bool
  | .connect | .enter => true
  | _ => false

/-- Does the step close the connection? -/
def Step.closes : Step → Bool
  | .close _ | .exit _ => true
  | _ => false

/-- The connection after the steps of a session. -/
def after (c : Connection) (steps : List (Step × List Reply)) : Connection :=
  steps.foldl (fun c s => (step c s.1 s.2).connection) c

/-- A session goes on from the connection that its steps so far have left. -/
theorem run_append (c : Connection) (steps more : List (Step × List Reply)) :
    run c (steps ++ more) = run c steps ++ run (after c steps) more := by
  induction steps generalizing c with
  | nil =>
      rfl
  | cons s steps ih =>
      obtain ⟨s, script⟩ := s
      simp only [List.cons_append, run, ih, after, List.foldl_cons]

section Steps

variable {c c' : Connection} {s : Step} {script : List Reply}

/-- What a step does to the connection: it opens it, closes it, or leaves it as it is. -/
theorem connection_step (c : Connection) (s : Step) (script : List Reply) :
    (step c s script).connection =
      if s.opens then c.connect.1 else if s.closes then (c.close none).1 else c := by
  have hopened (result : Result) : (Session.opened c result script).connection = c.connect.1 := by
    unfold Session.opened
    obtain ⟨c', _ | ⟨⟨⟩⟩⟩ := c.connect <;> rfl
  have hclosed (fault : Option String) :
      (closed c fault script).connection = (c.close none).1 := by
    unfold closed close
    cases c.client <;> rfl
  cases s with
  | connect | enter =>
      exact hopened _
  | close fault | exit fault =>
      exact hclosed fault
  | client =>
      simp only [step]
      split <;> rfl
  | submit | query | operate =>
      rfl

theorem step_of_connect_eq_ok
    (hs : s.opens = true) (hc : c.connect = (c', .ok ())) (script : List Reply) :
    ∃ result, step c s script = ⟨c', ⟨[], [], script, .ok result⟩⟩ := by
  cases s with
  | connect =>
      exact ⟨.nothing, by simp only [step, Session.opened, hc]⟩
  | enter =>
      exact ⟨.done, by simp only [step, Session.opened, hc]⟩
  | close | exit | client | submit | query | operate =>
      cases hs

/-- Closing never fails. -/
theorem result_of_closes (hs : s.closes = true) :
    (step c s script).exchange.result = .ok .nothing := by
  cases s with
  | close | exit =>
      rfl
  | connect | enter | client | submit | query | operate =>
      cases hs

/-- What a step sends, it sends through the client of the connection. -/
theorem exists_client_of_request {request : Request}
    (h : request ∈ (step c s script).exchange.requests) :
    ∃ client address ss, c.client = some client ∧ request = requestTo client address ss := by
  have hsubmitted {before : List LogLine} {ss : List Statement}
      (hrequest : request ∈ (submitted before c ss script).requests) :
      ∃ client address ss, c.client = some client ∧ request = requestTo client address ss := by
    rw [submitted_eq] at hrequest
    obtain ⟨client, address, hclient, heq⟩ := exists_client_of_submitted hrequest
    exact ⟨client, address, ss, hclient, heq⟩
  have hcall {call : Call} (hrequest : request ∈ (step c call.step script).exchange.requests) :
      ∃ client address ss, c.client = some client ∧ request = requestTo client address ss := by
    obtain ⟨e, -, hstep⟩ | ⟨ss, before, -, hstep⟩ := step_call_cases c call script
    · rw [hstep] at hrequest
      cases hrequest
    · rw [hstep] at hrequest
      exact hsubmitted hrequest
  cases s with
  | connect | enter =>
      simp only [step, Session.opened] at h
      split at h <;> cases h
  | close | exit =>
      cases h
  | client =>
      simp only [step] at h
      split at h <;> cases h
  | submit ss =>
      exact hsubmitted h
  | query input =>
      exact @hcall (.query input) h
  | operate operation args =>
      exact @hcall (.operate operation args) h

end Steps

section Stages

variable {start c : Connection} {s : Step} {script : List Reply}

/-- A step leads from a stage to a stage. -/
theorem stage_step
    (hstart : start.IsClosed) (h : Stage start c) (s : Step) (script : List Reply) :
    Stage start (step c s script).connection := by
  rw [connection_step]
  split
  · obtain ⟨client, hclient, hc⟩ | ⟨e, -, -, hc⟩ := h.connect_cases hstart
    · rw [hc]
      exact .opened hclient
    · rw [hc]
      exact h
  · split
    · rw [h.close_eq hstart]
      exact .closed
    · exact h

/-- After any steps a connection is in one of its two stages. -/
theorem stage_after
    (hstart : start.IsClosed) (h : Stage start c) (steps : List (Step × List Reply)) :
    Stage start (after c steps) := by
  induction steps generalizing c with
  | nil =>
      exact h
  | cons s steps ih =>
      exact ih (stage_step hstart h s.1 s.2)

theorem connection_of_closes
    (hstart : start.IsClosed) (h : Stage start c) (hs : s.closes = true) :
    (step c s script).connection = start := by
  have hopens : s.opens = false := by
    cases s <;> first | rfl | cases hs
  simp [connection_step, hopens, hs, h.close_eq hstart]

/-- Opening fails only on a closed connection, and leaves it closed. -/
theorem eq_start_of_opens_of_error
    (hstart : start.IsClosed) (h : Stage start c) (hs : s.opens = true) {e : SessionError}
    (he : (step c s script).exchange.result = .error e) :
    c = start ∧ (step c s script).connection = start := by
  obtain ⟨client, -, hc⟩ | ⟨e, -, rfl, hc⟩ := h.connect_cases hstart
  · obtain ⟨result, hresult⟩ := step_of_connect_eq_ok hs hc script
    simp [hresult] at he
  · simp [connection_step, hs, hc]

/-- A step that fails leaves the connection as it was. -/
theorem connection_of_error
    (hstart : start.IsClosed) (h : Stage start c) {e : SessionError}
    (he : (step c s script).exchange.result = .error e) :
    (step c s script).connection = c := by
  by_cases hopens : s.opens = true
  · obtain ⟨rfl, hsame⟩ := eq_start_of_opens_of_error hstart h hopens he
    exact hsame
  · by_cases hcloses : s.closes = true
    · simp [result_of_closes hcloses] at he
    · rw [connection_step, if_neg hopens, if_neg hcloses]

theorem opens_of_new_client
    (hstart : start.IsClosed) (h : Stage start c) (hnone : c.client = none)
    (hsome : (step c s script).connection.client ≠ none) :
    s.opens = true := by
  by_contra hs
  rw [connection_step, if_neg hs] at hsome
  split at hsome
  · rw [h.close_eq hstart] at hsome
    exact hsome hstart.1
  · exact hsome hnone

theorem closes_of_lost_client
    (hstart : start.IsClosed) (h : Stage start c) (hsome : c.client ≠ none)
    (hnone : (step c s script).connection.client = none) :
    s.closes = true := by
  by_contra hs
  rw [connection_step, if_neg hs] at hnone
  split at hnone
  · obtain ⟨client, -, hc⟩ | ⟨e, -, rfl, -⟩ := h.connect_cases hstart
    · rw [hc] at hnone
      cases hnone
    · exact hsome hstart.1
  · exact hsome hnone

/-- A connection that was open is opened again as it was. -/
theorem exists_newClient
    (hstart : start.IsClosed) (h : Stage start c) (hopen : c.client ≠ none ∨ start.CanOpen) :
    ∃ client, start.newClient = .ok client ∧ (c.client ≠ none → c = start.opened client) := by
  by_cases hc : c.client = none
  · obtain ⟨client, hclient⟩ := exists_newClient_iff.2 (hopen.resolve_left (fun hne => hne hc))
    exact ⟨client, hclient, fun hne => absurd hc hne⟩
  · obtain ⟨client, hclient, heq⟩ := h.eq_opened hstart hc
    exact ⟨client, hclient, fun _ => heq⟩

end Stages

/-- What a step keeps to that leads a connection `c`, made as `start`, to an outcome. -/
structure StepLaws (start c : Connection) (s : Step) (o : Outcome) : Prop where
  /-- Only opening can give the connection a client. -/
  opens_of_new_client : c.client = none → o.connection.client ≠ none → s.opens = true
  /-- Only closing can take the client away. -/
  closes_of_lost_client : c.client ≠ none → o.connection.client = none → s.closes = true
  /-- A connection that could not be opened is closed. -/
  failed_opening : s.opens = true → ∀ e, o.exchange.result = .error e → o.connection.IsClosed
  /-- Closing never fails. -/
  closing_succeeds : s.closes = true → o.exchange.result = .ok .nothing
  /-- Closing always ends with a closed connection. -/
  closing_ends_closed : s.closes = true → o.connection.IsClosed
  /-- A step that fails leaves the connection as it was. -/
  unchanged_of_error : ∀ e, o.exchange.result = .error e → o.connection = c
  /-- Nothing is sent without a client. -/
  client_of_request : o.exchange.requests ≠ [] → c.client ≠ none
  /-- After closing, opening does what it did at first. -/
  opening_again : s.closes = true → ∀ again script, again.opens = true →
    step o.connection again script = step start again script
  /-- After closing, a connection that was open or can be opened is opened again. -/
  open_again : s.closes = true → ∀ again script, again.opens = true →
    (c.client ≠ none ∨ start.CanOpen) →
    (∃ result, (step o.connection again script).exchange.result = .ok result) ∧
      (step o.connection again script).connection.client ≠ none ∧
      (c.client ≠ none → (step o.connection again script).connection = c)

theorem stepLaws_of_stage
    {start c : Connection} (hstart : start.IsClosed) (h : Stage start c) (s : Step)
    (script : List Reply) :
    StepLaws start c s (step c s script) where
  opens_of_new_client := opens_of_new_client hstart h
  closes_of_lost_client := closes_of_lost_client hstart h
  failed_opening := by
    intro hs e he
    rw [(eq_start_of_opens_of_error hstart h hs he).2]
    exact hstart
  closing_succeeds := result_of_closes
  closing_ends_closed := by
    intro hs
    rw [connection_of_closes hstart h hs]
    exact hstart
  unchanged_of_error := fun e he => connection_of_error hstart h he
  client_of_request := by
    intro hrequests hnone
    obtain ⟨request, hrequest⟩ := List.exists_mem_of_ne_nil _ hrequests
    obtain ⟨client, -, -, hclient, -⟩ := exists_client_of_request hrequest
    rw [hclient] at hnone
    cases hnone
  opening_again := by
    intro hs again script' hagain
    rw [connection_of_closes hstart h hs]
  open_again := by
    intro hs again script' hagain hopen
    obtain ⟨client, hclient, heq⟩ := exists_newClient hstart h hopen
    obtain ⟨result, hresult⟩ := step_of_connect_eq_ok hagain
      (connect_of_newClient_eq_ok hstart hclient) script'
    rw [connection_of_closes hstart h hs, hresult]
    exact ⟨⟨result, rfl⟩, Option.some_ne_none client, fun hne => (heq hne).symm⟩

/--
In every state that a session can reach, the connection counts as initialized
exactly when it has a client, and every step keeps to the laws of steps.
-/
theorem lifecycle
    (url : String) (auth path timeout maxConnections : Value)
    (steps : List (Step × List Reply)) :
    let start := Connection.new url auth path timeout maxConnections
    let c := after start steps
    c.initialized = c.client.isSome ∧
      ∀ s script, run start (steps ++ [(s, script)]) = run start steps ++ [step c s script] ∧
        StepLaws start c s (step c s script) := by
  intro start c
  have hstart : start.IsClosed := isClosed_new url auth path timeout maxConnections
  have hstage : Stage start c := stage_after hstart .closed steps
  refine ⟨hstage.initialized_eq hstart, fun s script => ⟨?_, ?_⟩⟩
  · exact run_append start steps [(s, script)]
  · exact stepLaws_of_stage hstart hstage s script

end Session
end CypherBatch
