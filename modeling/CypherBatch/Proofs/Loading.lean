import CypherBatch.Loader
import CypherBatch.Proofs.Transactions

/-!
# Loading as two transactions

What is found under a path is read, made legal and composed before anything else is done
with it.  Only then is a session started, and the nodes are submitted in one request;
the edges follow in a second one when the nodes have been saved, or when there are none.

So loading has two outer equations: `compose_snd` for what is composed, and `load_cases`
for what is done with it; `Source.Composes` says what is composed by the statements of the
nodes and those of the edges.  A submission goes one of three ways, and the submission of
both batches is the one of the nodes followed, if it succeeds, by the one of the edges.
-/

namespace CypherBatch

open Outcome

/-- Does a request carry these statements, all of them in their order, and is there one at least? -/
def Request.Carries (request : Request) (ss : List Statement) : Prop :=
  ss ≠ [] ∧ request.payload = .map [("statements", .list (ss.map Statement.payload))]

/-- Does a reply say that all statements were run?  It has to have a status of success and a
body that can be read and reports no faults. -/
def Reply.Succeeds : Reply → Prop
  | .answer status text =>
      200 ≤ status ∧ status ≤ 299 ∧
        ∃ body, Connection.bodyOfText text = .ok body ∧ body.faults = []
  | .timeout | .refused => False

namespace Connection

theorem succeeds_iff {reply : Reply} :
    reply.Succeeds ↔ ∃ tables, tablesOfReply reply = .ok tables := by
  cases reply with
  | timeout | refused =>
      simp [Reply.Succeeds, tablesOfReply]
  | answer status text =>
      simp only [Reply.Succeeds, tablesOfReply]
      by_cases hstatus : status < 200 ∨ 299 < status
      · simp only [hstatus, if_true, reduceCtorEq, exists_false, iff_false]
        omega
      · have hrange : 200 ≤ status ∧ status ≤ 299 := by
          omega
        simp only [hstatus, if_false, hrange, true_and]
        cases bodyOfText text with
        | error e =>
            simp
        | ok body =>
            by_cases hfaults : body.faults = [] <;> simp [hfaults]

/-- If a submission sends a request, the request carries all statements. -/
theorem submit_carries_cases (c : Connection) (ss : List Statement) (script : List Reply) :
    (ss = [] ∧ c.submit ss script = ⟨[], [], script, .ok []⟩) ∨
      (ss ≠ [] ∧ ∃ e, c.submit ss script = ⟨[], [], script, .error e⟩) ∨
      ∃ request log, request.Carries ss ∧
        c.submit ss script =
          ⟨[request], log, script.drop 1, tablesOfReply (nextReply ss.length script).1⟩ := by
  obtain hnothing | hfailed | ⟨client, address, log, hss, -, hsent⟩ := c.submit_cases ss script
  · exact Or.inl hnothing
  · exact Or.inr (Or.inl hfailed)
  · exact Or.inr (Or.inr ⟨requestTo client address ss, log, ⟨hss, rfl⟩, hsent⟩)

end Connection

namespace Session

/-- Statements already made, as a caller gives them. -/
def made (ss : List Statement) : StatementInput :=
  .list (ss.map .made)

theorem statements_made (ss : List Statement) : (made ss).statements = .ok ss := by
  have hstatements : (made ss).statements =
      (ss.map StatementItem.made).mapM fun x => StatementInput.statement (.item x) := by
    rfl
  rw [hstatements, List.mapM_map]
  refine (mapM_eq_ok_map (g := id) fun s _ => rfl).trans ?_
  rw [List.map_id]

/-- Statements already made are submitted as they are. -/
theorem step_query_made (c : Connection) (ss : List Statement) (script : List Reply) :
    step c (.query (made ss)) script = ⟨c, submitted [] c ss script⟩ := by
  rw [step, runQuery, statements_made]

end Session

namespace Loader

/-- The statements of a list of entries, given to an operation as one boxed argument. -/
def statementsOf (operation : Operation) (entries : List Value) :
    Except ComposeError (List Statement) :=
  if entries = [] then .ok [] else operation.statements [.list entries]

/-- What the nodes and edges of a document compose. -/
def composedOf (entries : List Value × List Value) : Except ComposeError Composed :=
  (statementsOf .addNode entries.1).bind fun nodes =>
    (statementsOf .addEdge entries.2).map fun edges => ⟨nodes, edges⟩

theorem composedOf_eq_ok_iff {entries : List Value × List Value} {composed : Composed} :
    composedOf entries = .ok composed ↔
      statementsOf .addNode entries.1 = .ok composed.nodes ∧
        statementsOf .addEdge entries.2 = .ok composed.edges := by
  obtain ⟨nodes, edges⟩ := composed
  simp [composedOf, bind_eq_ok_iff, map_eq_ok_iff]

/-- The legal nodes and edges of what is found under a path, or why there are none. -/
def Source.entries (stamp : Stamp) : Source → Except Error (List Value × List Value)
  | .file text => entriesOf stamp text
  | .directory => .error .directory
  | .nothing => .error .noFile

/-- Are these the statements of the nodes and edges of what is found under a path? -/
def Source.Composes (stamp : Stamp) (source : Source) (composed : Composed) : Prop :=
  ∃ nodes edges, source.entries stamp = .ok (nodes, edges) ∧
    statementsOf .addNode nodes = .ok composed.nodes ∧
    statementsOf .addEdge edges = .ok composed.edges

/-- What is composed from what is found under a path, or why nothing is. -/
def Source.composed (stamp : Stamp) : Source → Except Error Composed
  | .file text => (compose stamp text).2
  | .directory => .error .directory
  | .nothing => .error .noFile

theorem map_statements_batchOf (operation : Operation) (entries : List Value) :
    (batchOf operation entries).map Batch.statements = statementsOf operation entries := by
  unfold batchOf statementsOf
  by_cases hentries : entries = [] <;> simp [hentries, Operation.statements]

/-- A document is read and made legal, and then its nodes are composed before its edges. -/
theorem compose_snd (stamp : Stamp) (text : String) :
    (compose stamp text).2 =
      (entriesOf stamp text).bind fun entries => (composedOf entries).mapError .compose := by
  unfold compose
  cases entriesOf stamp text with
  | error e =>
      rfl
  | ok entries =>
      obtain ⟨nodes, edges⟩ := entries
      simp only [ok_bind, composedOf, ← map_statements_batchOf]
      cases batchOf .addNode nodes with
      | error e =>
          rfl
      | ok nodeBatch =>
          cases batchOf .addEdge edges <;> rfl

namespace Source

variable {stamp : Stamp} {source : Source} {nodes edges : List Value}

theorem composed_eq (stamp : Stamp) (source : Source) :
    source.composed stamp =
      (source.entries stamp).bind fun entries => (composedOf entries).mapError .compose := by
  cases source with
  | file text =>
      exact compose_snd stamp text
  | directory | nothing =>
      rfl

theorem composed_of_not_legal
    {e : Error} (h : source.entries stamp = .error e) :
    source.composed stamp = .error e := by
  rw [composed_eq, h, error_bind]

theorem composed_of_nodes_eq_error
    {e : ComposeError} (h : source.entries stamp = .ok (nodes, edges))
    (hnodes : statementsOf .addNode nodes = .error e) :
    source.composed stamp = .error (.compose e) := by
  rw [composed_eq, h, ok_bind, composedOf, hnodes]
  rfl

theorem composed_of_edges_eq_error
    {ss : List Statement} {e : ComposeError} (h : source.entries stamp = .ok (nodes, edges))
    (hnodes : statementsOf .addNode nodes = .ok ss)
    (hedges : statementsOf .addEdge edges = .error e) :
    source.composed stamp = .error (.compose e) := by
  rw [composed_eq, h, ok_bind, composedOf, hnodes, hedges]
  rfl

/-- What is composed is the statements of the nodes and edges. -/
theorem composed_eq_ok_iff {composed : Composed} :
    source.composed stamp = .ok composed ↔ source.Composes stamp composed := by
  simp only [composed_eq, bind_eq_ok_iff, mapError_eq_ok_iff, composedOf_eq_ok_iff, Prod.exists,
    Composes]

end Source

/-- What is done with what was composed. -/
def perform (settings : Settings) (options : Options) (script : List Reply)
    (composed : Composed) : Report :=
  if options.dryRun then printAll composed else submitAll settings composed script

/-- Loading fails before it does anything, or does something with what was composed. -/
theorem load_cases
    (settings : Settings) (options : Options) (now : Instant) (script : List Reply)
    (source : Source) :
    (∃ log e, source.composed ⟨options.hashBy, settings.updatedBy, now⟩ = .error e ∧
      load settings options now script source = ⟨[], [], log, .error e⟩) ∨
    ∃ log composed, source.composed ⟨options.hashBy, settings.updatedBy, now⟩ = .ok composed ∧
      load settings options now script source =
        { perform settings options script composed with log := log } := by
  cases source with
  | nothing =>
      exact Or.inl ⟨[], _, rfl, rfl⟩
  | directory =>
      exact Or.inl ⟨[], _, rfl, rfl⟩
  | file text =>
      simp only [load, loadText, Source.composed]
      rcases compose ⟨options.hashBy, settings.updatedBy, now⟩ text with ⟨log, e | composed⟩
      · exact Or.inl ⟨log, e, rfl, rfl⟩
      · exact Or.inr ⟨_, composed, rfl, rfl⟩

section Submission

variable {c : Connection} {composed : Composed} {script : List Reply}

/-- Edges are not submitted when the nodes have failed. -/
theorem submitBoth_of_error
    {e : SubmitError} (h : (c.submit composed.nodes script).result = .error e) :
    submitBoth c composed script =
      ⟨[], (c.submit composed.nodes script).requests, (c.submit composed.nodes script).log,
        .error (.submit e)⟩ := by
  simp [submitBoth, h]

/-- When the nodes have succeeded, what the edges result in is the result. -/
theorem submitBoth_of_ok
    {tables : List Response.Table} (h : (c.submit composed.nodes script).result = .ok tables) :
    let first := c.submit composed.nodes script
    let second := c.submit composed.edges first.script
    submitBoth c composed script =
      ⟨[], first.requests ++ second.requests, first.log ++ second.log,
        (second.result.mapError .submit).map fun edgeTables =>
          ⟨composed.nodes.length, composed.edges.length,
            some (rowCount tables, rowCount edgeTables)⟩⟩ := by
  simp only [submitBoth, h]
  cases (c.submit composed.edges (c.submit composed.nodes script).script).result <;> rfl

/-- Loading is two queries of a session, the second one only after the first has succeeded. -/
theorem requests_submitBoth_eq_queries
    (c : Connection) (composed : Composed) (script : List Reply) :
    let first := (Session.step c (.query (Session.made composed.nodes)) script).exchange
    let second := (Session.step c (.query (Session.made composed.edges)) first.script).exchange
    (submitBoth c composed script).requests =
      first.requests ++ if first.result.isOk then second.requests else [] := by
  simp only [Session.step_query_made, Session.submitted_eq]
  cases h : (c.submit composed.nodes script).result with
  | error e =>
      rw [submitBoth_of_error h]
      simp [Session.ofSubmit, Except.isOk, Except.toBool]
  | ok tables =>
      rw [submitBoth_of_ok h]
      rfl

end Submission

/-- Requests with the nodes and edges of a document, as far as they may be sent.

The edges come last, and behind the nodes only when the reply to those was a success.
-/
inductive InOrder (composed : Composed) (script : List Reply) : List Request → Prop
  | none : InOrder composed script []
  | nodes {request : Request} (h : request.Carries composed.nodes) :
      InOrder composed script [request]
  | edges {request : Request} (hnodes : composed.nodes = [])
      (h : request.Carries composed.edges) :
      InOrder composed script [request]
  | both {first second : Request} (hfirst : first.Carries composed.nodes)
      (hreply : (Connection.nextReply composed.nodes.length script).1.Succeeds)
      (hsecond : second.Carries composed.edges) :
      InOrder composed script [first, second]

theorem InOrder.length_le
    {composed : Composed} {script : List Reply} {requests : List Request}
    (h : InOrder composed script requests) : requests.length ≤ 2 := by
  cases h <;> simp

/-- What the submission of both batches may send, and when it has to fail. -/
structure Submitted (composed : Composed) (script : List Reply) (r : Report) : Prop where
  in_order : InOrder composed script r.requests
  failed : composed.nodes ≠ [] → r.requests ≠ [] →
    ¬ (Connection.nextReply composed.nodes.length script).1.Succeeds →
    (∃ request, r.requests = [request] ∧ request.Carries composed.nodes) ∧
      ∃ e, r.result = .error e
  unsent : composed.nodes ≠ [] ∨ composed.edges ≠ [] → r.requests = [] → ∃ e, r.result = .error e

theorem submitted_submitBoth
    (c : Connection) (composed : Composed) (script : List Reply) :
    Submitted composed script (submitBoth c composed script) := by
  obtain ⟨hnodes, hfirst⟩ | ⟨hnodes, e, hfirst⟩ | ⟨request, log, hcarries, hfirst⟩ :=
    c.submit_carries_cases composed.nodes script
  · -- There are no nodes, so that the edges come first.
    rw [submitBoth_of_ok (by rw [hfirst]), hfirst]
    obtain ⟨hedges, hsecond⟩ | ⟨hedges, e, hsecond⟩ | ⟨request, log, hcarries, hsecond⟩ :=
      c.submit_carries_cases composed.edges script
    · rw [hsecond]
      exact ⟨.none, fun hne => absurd hnodes hne, fun hne => absurd hne (by simp [hnodes, hedges])⟩
    · rw [hsecond]
      exact ⟨.none, fun hne => absurd hnodes hne, fun _ _ => ⟨_, rfl⟩⟩
    · rw [hsecond]
      exact ⟨.edges hnodes hcarries, fun hne => absurd hnodes hne, fun _ hnone => by cases hnone⟩
  · rw [submitBoth_of_error (by rw [hfirst]), hfirst]
    exact ⟨.none, fun _ hne => absurd rfl hne, fun _ _ => ⟨_, rfl⟩⟩
  · cases hreply : Connection.tablesOfReply
        (Connection.nextReply composed.nodes.length script).1 with
    | error e =>
        rw [submitBoth_of_error (by rw [hfirst, hreply]), hfirst]
        exact ⟨.nodes hcarries, fun _ _ _ => ⟨⟨request, rfl, hcarries⟩, _, rfl⟩,
          fun _ hnone => by cases hnone⟩
    | ok tables =>
        have hsuccess := Connection.succeeds_iff.2 ⟨tables, hreply⟩
        rw [submitBoth_of_ok (by rw [hfirst, hreply]), hfirst]
        refine ⟨?_, fun _ _ hfailed => absurd hsuccess hfailed, fun _ hnone => by simp at hnone⟩
        obtain ⟨-, hsecond⟩ | ⟨-, e, hsecond⟩ | ⟨second, log, hcarries', hsecond⟩ :=
          c.submit_carries_cases composed.edges (script.drop 1)
        · rw [hsecond]
          exact .nodes hcarries
        · rw [hsecond]
          exact .nodes hcarries
        · rw [hsecond]
          exact .both hcarries hsuccess hcarries'

/-- Without credentials there is no session. -/
theorem start_of_no_credentials
    {settings : Settings} (h : settings.auth = none) :
    Session.start settings = .error .noCredentials := by
  rw [Session.start, h]

/-- A dry run prints, and any other run fails without a session or submits in one. -/
theorem perform_cases
    (settings : Settings) (options : Options) (script : List Reply) (composed : Composed) :
    (options.dryRun = true ∧ perform settings options script composed = printAll composed) ∨
      options.dryRun = false ∧
        ((∃ e, Session.start settings = .error e ∧
            perform settings options script composed = ⟨[], [], [], .error (.start e)⟩) ∨
          ∃ c, Session.start settings = .ok c ∧
            perform settings options script composed = submitBoth c composed script) := by
  cases hdry : options.dryRun with
  | true =>
      exact Or.inl ⟨rfl, by simp [perform, hdry]⟩
  | false =>
      refine Or.inr ⟨rfl, ?_⟩
      simp only [perform, hdry, Bool.false_eq_true, if_false, submitAll]
      cases Session.start settings with
      | error e =>
          exact Or.inl ⟨e, rfl, rfl⟩
      | ok c =>
          exact Or.inr ⟨c, rfl, rfl⟩

/-- What may be sent of what was composed, and when the run has to fail. -/
structure Performed (settings : Settings) (options : Options) (composed : Composed)
    (script : List Reply) (r : Report) : Prop where
  in_order : InOrder composed script r.requests
  no_credentials : settings.auth = none →
    r.requests = [] ∧ (options.dryRun = false → ∃ e, r.result = .error e)
  nodes_failed : composed.nodes ≠ [] → r.requests ≠ [] →
    ¬ (Connection.nextReply composed.nodes.length script).1.Succeeds →
    (∃ request, r.requests = [request] ∧ request.Carries composed.nodes) ∧
      ∃ e, r.result = .error e
  unsent : options.dryRun = false → composed.nodes ≠ [] ∨ composed.edges ≠ [] →
    r.requests = [] → ∃ e, r.result = .error e

theorem performed_perform
    (settings : Settings) (options : Options) (composed : Composed) (script : List Reply) :
    Performed settings options composed script (perform settings options script composed) := by
  obtain ⟨hdry, hperform⟩ | ⟨hdry, ⟨e, hstart, hperform⟩ | ⟨c, hstart, hperform⟩⟩ :=
    perform_cases settings options script composed
  · -- A dry run sends nothing at all.
    rw [hperform]
    exact {
      in_order := .none
      no_credentials := fun _ => ⟨rfl, by simp [hdry]⟩
      nodes_failed := fun _ hsent => absurd rfl hsent
      unsent := by simp [hdry] }
  · rw [hperform]
    exact {
      in_order := .none
      no_credentials := fun _ => ⟨rfl, fun _ => ⟨_, rfl⟩⟩
      nodes_failed := fun _ hsent => absurd rfl hsent
      unsent := fun _ _ _ => ⟨_, rfl⟩ }
  · rw [hperform]
    have hsubmitted := submitted_submitBoth c composed script
    refine {
      in_order := hsubmitted.in_order
      no_credentials := fun hauth => ?_
      nodes_failed := hsubmitted.failed
      unsent := fun _ => hsubmitted.unsent }
    rw [start_of_no_credentials hauth] at hstart
    cases hstart

/-- What loading may send, from what is found under a path to the report. -/
structure TwoTransactions (settings : Settings) (options : Options) (stamp : Stamp)
    (script : List Reply) (source : Source) (r : Report) : Prop where
  /-- No more than two requests are sent. -/
  at_most_two : r.requests.length ≤ 2
  /-- What cannot be read or made legal as a whole sends nothing. -/
  not_legal : ∀ e, source.entries stamp = .error e → r.requests = [] ∧ r.result = .error e
  /-- When the nodes cannot be composed, nothing is sent. -/
  nodes_not_composed : ∀ nodes edges e, source.entries stamp = .ok (nodes, edges) →
    statementsOf .addNode nodes = .error e → r.requests = [] ∧ r.result = .error (.compose e)
  /-- When the nodes are composed and the edges cannot be, nothing is sent, not even the nodes. -/
  edges_not_composed : ∀ nodes edges ss e, source.entries stamp = .ok (nodes, edges) →
    statementsOf .addNode nodes = .ok ss → statementsOf .addEdge edges = .error e →
    r.requests = [] ∧ r.result = .error (.compose e)
  /-- Without credentials nothing is sent, and only a dry run can succeed. -/
  no_credentials : settings.auth = none →
    r.requests = [] ∧ (options.dryRun = false → ∃ e, r.result = .error e)
  /-- A request carries all nodes or all edges, the edges after the nodes have been saved. -/
  in_order : ∀ c, source.Composes stamp c → InOrder c script r.requests
  /-- When the reply to the nodes is no success, loading fails without a request of the edges. -/
  nodes_failed : ∀ c, source.Composes stamp c → c.nodes ≠ [] → r.requests ≠ [] →
    ¬ (Connection.nextReply c.nodes.length script).1.Succeeds →
    (∃ request, r.requests = [request] ∧ request.Carries c.nodes) ∧ ∃ e, r.result = .error e
  /-- When there is something to send and it is not sent, loading fails, unless it is a dry run. -/
  unsent : ∀ c, source.Composes stamp c → options.dryRun = false → c.nodes ≠ [] ∨ c.edges ≠ [] →
    r.requests = [] → ∃ e, r.result = .error e

/-- Loading sends the nodes before the edges, in no more than two requests, and nothing at
all before everything has been composed, whatever is loaded and whatever the server replies. -/
theorem two_transactions
    (settings : Settings) (options : Options) (now : Instant) (script : List Reply)
    (source : Source) :
    TwoTransactions settings options ⟨options.hashBy, settings.updatedBy, now⟩ script source
      (load settings options now script source) := by
  obtain ⟨log, e, hcomposed, hload⟩ | ⟨log, composed, hcomposed, hload⟩ :=
    load_cases settings options now script source
  · rw [hload]
    have hcause {e' : Error}
        (h : source.composed ⟨options.hashBy, settings.updatedBy, now⟩ = .error e') : e = e' :=
      Except.error.inj (hcomposed.symm.trans h)
    have hnot {c : Composed} :
        ¬ source.Composes ⟨options.hashBy, settings.updatedBy, now⟩ c := by
      simp [← Source.composed_eq_ok_iff, hcomposed]
    exact {
      at_most_two := Nat.zero_le 2
      not_legal := fun e' h => ⟨rfl, by rw [hcause (Source.composed_of_not_legal h)]⟩
      nodes_not_composed := fun _ _ _ h hnodes =>
        ⟨rfl, by rw [hcause (Source.composed_of_nodes_eq_error h hnodes)]⟩
      edges_not_composed := fun _ _ _ _ h hnodes hedges =>
        ⟨rfl, by rw [hcause (Source.composed_of_edges_eq_error h hnodes hedges)]⟩
      no_credentials := fun _ => ⟨rfl, fun _ => ⟨e, rfl⟩⟩
      in_order := fun _ h => absurd h hnot
      nodes_failed := fun _ h => absurd h hnot
      unsent := fun _ h => absurd h hnot }
  · rw [hload]
    have hperformed := performed_perform settings options composed script
    have hgiven {c : Composed}
        (h : source.Composes ⟨options.hashBy, settings.updatedBy, now⟩ c) : composed = c :=
      Except.ok.inj (hcomposed.symm.trans (Source.composed_eq_ok_iff.2 h))
    have hnot {e : Error} : source.composed ⟨options.hashBy, settings.updatedBy, now⟩ ≠ .error e := by
      simp [hcomposed]
    exact {
      at_most_two := hperformed.in_order.length_le
      not_legal := fun _ h => absurd (Source.composed_of_not_legal h) hnot
      nodes_not_composed := fun _ _ _ h hnodes =>
        absurd (Source.composed_of_nodes_eq_error h hnodes) hnot
      edges_not_composed := fun _ _ _ _ h hnodes hedges =>
        absurd (Source.composed_of_edges_eq_error h hnodes hedges) hnot
      no_credentials := hperformed.no_credentials
      in_order := fun _ h => hgiven h ▸ hperformed.in_order
      nodes_failed := fun _ h => hgiven h ▸ hperformed.nodes_failed
      unsent := fun _ h => hgiven h ▸ hperformed.unsent }

end Loader
end CypherBatch
