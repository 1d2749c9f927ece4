import CypherBatch.Proofs.Legality
import CypherBatch.Proofs.Loading
import CypherBatch.Proofs.Outlines

/-!
# What a dry run predicts

A dry run prints the statements that are submitted otherwise.  The two runs read the clock
at different times, and all that the time does is to be stored in each map.  It is never
empty, so that maps made legal at two times have the same outline, and a document composes
statements of the same skeletons at both.  A real run that succeeds has sent these, the
nodes first; one that cannot compose them fails in the same way and sends nothing.
-/

namespace CypherBatch

open Outcome

/-- The text of a statement as a request carries it. -/
def Statement.sentText? : Value → Option String
  | .map fields => (PropertyMap.get? fields "statement").bind Value.text?
  | _ => none

/-- The texts of the statements that a request carries, in their order. -/
def Request.texts (request : Request) : List String :=
  match request.payload with
  | .map fields =>
      match PropertyMap.get? fields "statements" with
      | some (.list statements) => statements.filterMap Statement.sentText?
      | _ => []
  | _ => []

theorem Request.texts_of_carries
    {request : Request} {ss : List Statement} (h : request.Carries ss) :
    request.texts = ss.map Statement.query := by
  have hsent (s : Statement) : Statement.sentText? s.payload = some s.query := by
    rfl
  simp [texts, h.2, PropertyMap.get?, List.filterMap_map, hsent]

namespace PropertyMap

theorem outline_insert_str_eq
    {text text' : String} (h : text ≠ "") (h' : text' ≠ "") (key : String) (m : PropertyMap) :
    (insert key (.str text) m).outline = (insert key (.str text') m).outline :=
  outline_eq_of_keys_eq (by rw [keys_insert, keys_insert]) (isLegal_insert_str_eq h h' key m)

/-- A map is made legal in the same way at any time, but for the time that is stored in it. -/
theorem legalize_agree (hashBy updatedBy : Value) (now now' : Instant) (m : PropertyMap) :
    Agree Eq (fun stored stored' => stored.outline = stored'.outline)
      (legalize hashBy updatedBy now m) (legalize hashBy updatedBy now' m) := by
  simp only [legalize, bind_eq, pure_eq]
  cases Identity.choose hashBy (flatten separator m) with
  | error e =>
      exact .error rfl
  | ok identity =>
      exact .ok (outline_insert_str_eq now.text_ne_empty now'.text_ne_empty _ _)

end PropertyMap

namespace Loader

/-- Do two errors have the same kind?  Those of composing may differ in what they show. -/
def Error.SameKind : Error → Error → Prop
  | .compose e, .compose e' => e.kind = e'.kind
  | e, e' => e = e'

theorem Error.SameKind.refl (e : Error) : e.SameKind e := by
  cases e <;> rfl

section Times

variable (hashBy : Value) (updatedBy : String) (now now' : Instant)

/-- Do two outcomes agree, with the same error or with values of one outline? -/
abbrev SameEntry : Except Error Value → Except Error Value → Prop :=
  Agree Eq fun v v' => v.outline = v'.outline

/-- Do two outcomes agree, with the same error or with values of the same outlines? -/
abbrev SameEntries : Except Error (List Value) → Except Error (List Value) → Prop :=
  Agree Eq fun vs vs' => vs.map Value.outline = vs'.map Value.outline

theorem legalEntry_agree (entry : Value) :
    SameEntry (legalEntry ⟨hashBy, updatedBy, now⟩ entry)
      (legalEntry ⟨hashBy, updatedBy, now'⟩ entry) := by
  simp only [legalEntry, bind_eq]
  cases itemsOf entry with
  | error e =>
      exact .error rfl
  | ok items =>
      match items with
      | [] | .null :: _ | .bool _ :: _ | .int _ :: _ | .float _ :: _ | .str _ :: _
      | .list _ :: _ =>
          exact .error rfl
      | .map fields :: labels =>
          have hagree := PropertyMap.legalize_agree hashBy (.str updatedBy) now now' fields
          simp only [ok_bind]
          generalize PropertyMap.legalize hashBy (.str updatedBy) now fields = r at hagree ⊢
          generalize PropertyMap.legalize hashBy (.str updatedBy) now' fields = r' at hagree ⊢
          cases hagree with
          | ok hsame =>
              exact .ok (by simp [hsame])
          | error hsame =>
              exact .error (congrArg Error.identity hsame)

theorem legalEdge_agree (edge : Value) :
    SameEntry (legalEdge ⟨hashBy, updatedBy, now⟩ edge)
      (legalEdge ⟨hashBy, updatedBy, now'⟩ edge) := by
  simp only [legalEdge, bind_eq]
  cases itemsOf edge with
  | error e =>
      exact .error rfl
  | ok items =>
      match items with
      | [group, source, target] =>
          refine (legalEntry_agree hashBy updatedBy now now' group).bind fun v v' hv => ?_
          exact .ok (by simp [hv])
      | [] | [_] | [_, _] | _ :: _ :: _ :: _ :: _ =>
          exact .error rfl

/-- Entries that agree one by one agree as the items of a value. -/
theorem entries_agree
    {f g : Value → Except Error Value} (h : ∀ v, SameEntry (f v) (g v)) (v : Value) :
    SameEntries ((itemsOf v).bind fun entries => entries.mapM f)
      ((itemsOf v).bind fun entries => entries.mapM g) := by
  cases itemsOf v with
  | error e =>
      exact .error rfl
  | ok entries =>
      refine (Agree.mapM fun entry _ => h entry).imp (fun _ _ => id) fun vs vs' hvs => ?_
      rwa [← List.forall₂_eq_eq_eq, List.forall₂_map_left_iff, List.forall₂_map_right_iff]

/-- The entries of a document have the same outlines at any two times. -/
theorem entriesOf_agree (text : String) :
    Agree Eq
      (fun entries entries' => entries.1.map Value.outline = entries'.1.map Value.outline ∧
        entries.2.map Value.outline = entries'.2.map Value.outline)
      (entriesOf ⟨hashBy, updatedBy, now⟩ text) (entriesOf ⟨hashBy, updatedBy, now'⟩ text) := by
  simp only [entriesOf]
  match Json.parse text with
  | .error fault =>
      exact .error rfl
  | .ok (.map document) =>
      have hnode := legalEntry_agree hashBy updatedBy now now'
      have hedge := legalEdge_agree hashBy updatedBy now now'
      refine (entries_agree hnode _).bind fun nodes nodes' hnodes => ?_
      refine (entries_agree hedge _).bind fun edges edges' hedges => ?_
      exact .ok ⟨hnodes, hedges⟩
  | .ok .null | .ok (.bool _) | .ok (.int _) | .ok (.float _) | .ok (.str _) | .ok (.list _) =>
      exact .error rfl

end Times

/-- Do two documents compose statements of the same skeletons? -/
def Composed.Same (composed composed' : Composed) : Prop :=
  composed.nodes.map Statement.skeleton = composed'.nodes.map Statement.skeleton ∧
    composed.edges.map Statement.skeleton = composed'.edges.map Statement.skeleton

theorem statementsOf_agree
    {op : Operation} {entries entries' : List Value}
    (h : entries.map Value.outline = entries'.map Value.outline) :
    Operation.SameComposition (statementsOf op entries) (statementsOf op entries') := by
  have hempty : entries = [] ↔ entries' = [] := by
    rw [← List.map_eq_nil_iff, h, List.map_eq_nil_iff]
  unfold statementsOf
  by_cases hnone : entries' = []
  · rw [if_pos (hempty.2 hnone), if_pos hnone]
    exact .ok rfl
  · rw [if_neg (mt hempty.1 hnone), if_neg hnone]
    exact Operation.statements_agree_of_outline_eq (by simp [h])

theorem composedOf_agree
    {entries entries' : List Value × List Value}
    (hnodes : entries.1.map Value.outline = entries'.1.map Value.outline)
    (hedges : entries.2.map Value.outline = entries'.2.map Value.outline) :
    Agree (fun e e' => e.kind = e'.kind) Composed.Same (composedOf entries)
      (composedOf entries') := by
  refine (statementsOf_agree hnodes).bind fun nodes nodes' h => ?_
  exact (statementsOf_agree hedges).map fun edges edges' h' => ⟨h, h'⟩

/-- A document composes statements of the same skeletons at any two times. -/
theorem composed_agree
    (hashBy : Value) (updatedBy : String) (now now' : Instant) (source : Source) :
    Agree Error.SameKind Composed.Same (source.composed ⟨hashBy, updatedBy, now⟩)
      (source.composed ⟨hashBy, updatedBy, now'⟩) := by
  cases source with
  | nothing | directory =>
      exact .error rfl
  | file text =>
      have hkind (e e' : Error) (he : e = e') : e.SameKind e' :=
        he ▸ .refl e
      have hentries :=
        (entriesOf_agree hashBy updatedBy now now' text).imp hkind fun _ _ => id
      simp only [Source.composed_eq, Source.entries]
      refine hentries.bind fun entries entries' h => ?_
      exact (composedOf_agree h.1 h.2).mapError fun _ _ => id

section Submission

variable {c : Connection} {composed : Composed} {script : List Reply}

/-- A submission that succeeds has sent its statements. -/
theorem texts_of_submit_ok
    {ss : List Statement} {tables : List Response.Table}
    (h : (c.submit ss script).result = .ok tables) :
    (c.submit ss script).requests.flatMap Request.texts = ss.map Statement.query := by
  obtain ⟨rfl, hsubmit⟩ | ⟨-, e, hsubmit⟩ | ⟨request, log, hcarries, hsubmit⟩ :=
    c.submit_carries_cases ss script
  · rw [hsubmit]
    rfl
  · rw [hsubmit] at h
    cases h
  · rw [hsubmit]
    simp [Request.texts_of_carries hcarries]

/-- When both batches have been submitted, the texts sent are those of all statements. -/
theorem submitBoth_eq_ok
    {stats : Stats} (h : (submitBoth c composed script).result = .ok stats) :
    (submitBoth c composed script).requests.flatMap Request.texts =
        (composed.nodes ++ composed.edges).map Statement.query ∧
      stats.nodeStatements = composed.nodes.length ∧
      stats.edgeStatements = composed.edges.length := by
  cases hfirst : (c.submit composed.nodes script).result with
  | error e =>
      rw [submitBoth_of_error hfirst] at h
      cases h
  | ok tables =>
      rw [submitBoth_of_ok hfirst] at h ⊢
      cases hsecond : (c.submit composed.edges (c.submit composed.nodes script).script).result with
      | error e =>
          simp [hsecond, Except.mapError] at h
      | ok edgeTables =>
          simp only [hsecond, Except.mapError, ok_map, Except.ok.injEq] at h
          subst h
          simp [texts_of_submit_ok hfirst, texts_of_submit_ok hsecond]

theorem printed_submitBoth : (submitBoth c composed script).printed = [] := by
  cases hfirst : (c.submit composed.nodes script).result with
  | error e =>
      rw [submitBoth_of_error hfirst]
  | ok tables =>
      rw [submitBoth_of_ok hfirst]

end Submission

/-- What a run writes to the standard output: each text on a line of its own. -/
def Report.output (r : Report) : String :=
  String.join (r.printed.map fun line => line ++ "\n")

/-- What a dry run says about a real one. -/
structure Predicts (dry real : Report) : Prop where
  /-- The dry run sends nothing. -/
  unsent : dry.requests = []
  /-- The real run prints nothing. -/
  silent : real.output = ""
  /-- If the real run succeeds, the dry run counts and prints what the real one sends. -/
  loaded : ∀ stats, real.result = .ok stats →
    (∃ predicted, dry.result = .ok predicted ∧
      predicted.nodeStatements = stats.nodeStatements ∧
      predicted.edgeStatements = stats.edgeStatements) ∧
    dry.output = String.join ((real.requests.flatMap Request.texts).map fun text => text ++ "\n")
  /-- If the dry run fails, the real run fails in the same way and sends nothing. -/
  refused : ∀ e, dry.result = .error e →
    real.requests = [] ∧ ∃ e', real.result = .error e' ∧ e.SameKind e'

/-- What is printed of one document predicts what is submitted of one with the same skeletons. -/
theorem predicts_printAll
    {composed composed' : Composed} (h : composed.Same composed') (settings : Settings)
    (script : List Reply) (log log' : List LogLine) :
    Predicts { printAll composed with log := log }
      { submitAll settings composed' script with log := log' } := by
  have htexts (ss ss' : List Statement) (hss : ss.map Statement.skeleton =
      ss'.map Statement.skeleton) : ss.map Statement.query = ss'.map Statement.query := by
    simpa [Statement.skeleton, Function.comp_def] using
      congrArg (List.map Statement.query) hss
  have hlength (ss ss' : List Statement) (hss : ss.map Statement.skeleton =
      ss'.map Statement.skeleton) : ss.length = ss'.length := by
    simpa using congrArg List.length hss
  unfold submitAll
  cases Session.start settings with
  | error e =>
      exact ⟨rfl, rfl, by simp, by simp [printAll]⟩
  | ok c =>
      refine ⟨rfl, ?_, fun stats hstats => ?_, by simp [printAll]⟩
      · simp [Report.output, printed_submitBoth]
      · obtain ⟨hsent, hnodes, hedges⟩ := submitBoth_eq_ok hstats
        refine ⟨⟨_, rfl, ?_, ?_⟩, ?_⟩
        · exact (hlength _ _ h.1).trans hnodes.symm
        · exact (hlength _ _ h.2).trans hedges.symm
        · simp only [Report.output, printAll, hsent, List.map_append, htexts _ _ h.1,
            htexts _ _ h.2]

/-- A dry run predicts the real one, whatever time it is and whatever the server replies. -/
theorem dry_run_predicts
    (settings : Settings) (hashBy : Value) (now now' : Instant) (script script' : List Reply)
    (source : Source) :
    Predicts (load settings ⟨hashBy, true⟩ now script source)
      (load settings ⟨hashBy, false⟩ now' script' source) := by
  have hagree := composed_agree hashBy settings.updatedBy now now' source
  obtain ⟨log, e, hdry, hload⟩ | ⟨log, composed, hdry, hload⟩ :=
    load_cases settings ⟨hashBy, true⟩ now script source
  all_goals obtain ⟨log', e', hreal, hload'⟩ | ⟨log', composed', hreal, hload'⟩ :=
    load_cases settings ⟨hashBy, false⟩ now' script' source
  all_goals rw [hdry, hreal] at hagree
  all_goals rw [hload, hload']
  · -- Both runs fail before they do anything.
    cases hagree with
    | error hkind =>
        exact ⟨rfl, rfl, by simp, fun _ he => ⟨rfl, e', rfl, Except.error.inj he ▸ hkind⟩⟩
  · cases hagree
  · cases hagree
  · cases hagree with
    | ok hsame =>
        exact predicts_printAll hsame settings script' log log'

/-- A node is printed at one time and saved at another one. -/
example :
    let settings : Settings :=
      ⟨Settings.defaultUrl, some "ann:secret", Settings.defaultPath, Settings.defaultTimeout,
        Settings.defaultConnections, Settings.defaultAuthor⟩
    let source := Source.file "\x7b\"nodes\": [[\x7b\"name\": \"A\"\x7d, \"alpha\"]]\x7d"
    let dry := load settings ⟨.str "name", true⟩ ⟨0⟩ [] source
    let real := load settings ⟨.str "name", false⟩ ⟨1⟩ [] source
    dry.printed.length = 1 ∧ real.result.isOk = true ∧
      dry.printed = real.requests.flatMap Request.texts := by
  decide +kernel

end Loader
end CypherBatch
