import CypherBatch.Proofs.Transactions

/-!
# What a success accounts for

A reply is taken for a success when its status is one of success, its body is an
object that can be read, and that object reports no errors.  The tables that a
submission then gives are the results that the body lists, read one by one in their
order; a body without the field lists none.

Nothing compares their number with that of the statements.  So a submission has one
table for each of its statements exactly when the reply lists one result for each, and
a reply that lists fewer or more is a success all the same.
-/

namespace CypherBatch

open Outcome

namespace Checked

variable {α β : Type}

@[simp] theorem under_eq_ok_iff {step : PathStep} {x : Checked α} {a : α} :
    under step x = .ok a ↔ x = .ok a := by
  cases x <;> simp [under]

@[simp] theorem both_eq_ok_iff {x : Checked α} {y : Checked β} {a : α} {b : β} :
    both x y = .ok (a, b) ↔ x = .ok a ∧ y = .ok b := by
  cases x <;> cases y <;> simp [both]

/-- Items are checked one by one, in their order. -/
theorem eachFrom_eq_ok_iff
    {check : Value → Checked α} {items : List Value} {n : Nat} {xs : List α} :
    eachFrom check n items = .ok xs ↔ List.Forall₂ (fun v x => check v = .ok x) items xs := by
  induction items generalizing n xs with
  | nil =>
      cases xs <;> simp [eachFrom]
  | cons v rest ih =>
      simp only [eachFrom, map_eq_ok_iff, Prod.exists, both_eq_ok_iff, under_eq_ok_iff, ih]
      constructor
      · rintro ⟨x, xs', ⟨hv, hrest⟩, rfl⟩
        exact .cons hv hrest
      · intro h
        cases h with
        | cons hv hrest =>
            exact ⟨_, _, ⟨hv, hrest⟩, rfl⟩

theorem listOf_eq_ok_iff {check : Value → Checked α} {v : Value} {xs : List α} :
    listOf check v = .ok xs ↔
      ∃ items, v = .list items ∧ List.Forall₂ (fun v x => check v = .ok x) items xs := by
  cases v with
  | list items =>
      simp [listOf, eachFrom_eq_ok_iff]
  | null | bool | int | float | str | map =>
      simp [listOf, fail]

end Checked

namespace Response

/-- Does an object list these items in a field?  A field that is missing lists none. -/
def Lists (fields : PropertyMap) (name : String) (items : List Value) : Prop :=
  PropertyMap.get? fields name = some (.list items) ∨
    PropertyMap.get? fields name = none ∧ items = []

section Bodies

variable {α : Type} {check : Value → Checked α} {fields : PropertyMap} {name : String}

theorem Lists.unique {items items' : List Value}
    (h : Lists fields name items) (h' : Lists fields name items') :
    items = items' := by
  rcases h with h | ⟨h, rfl⟩ <;> rcases h' with h' | ⟨h', rfl⟩
  · simpa using h.symm.trans h'
  · cases h.symm.trans h'
  · cases h.symm.trans h'
  · rfl

/-- A field that holds a list is checked item by item. -/
theorem field_listOf_eq_ok_iff {xs : List α} :
    Checked.field fields name [] (Checked.listOf check) = .ok xs ↔
      ∃ items, Lists fields name items ∧ List.Forall₂ (fun v x => check v = .ok x) items xs := by
  unfold Checked.field Lists
  cases PropertyMap.get? fields name with
  | none =>
      simp [eq_comm]
  | some v =>
      simp [Checked.listOf_eq_ok_iff]

/-- A body is an object whose results are tables and whose errors are faults. -/
theorem Body.check_eq_ok_iff {v : Value} {body : Body} :
    Body.check v = .ok body ↔
      ∃ fields results errors, v = .map fields ∧
        (Lists fields "results" results ∧
          List.Forall₂ (fun v table => Table.check v = .ok table) results body.tables) ∧
        Lists fields "errors" errors ∧
          List.Forall₂ (fun v fault => Fault.check v = .ok fault) errors body.faults := by
  obtain ⟨tables, faults⟩ := body
  cases v with
  | map fields =>
      simp only [Body.check, Checked.object, map_eq_ok_iff, Prod.exists, Checked.both_eq_ok_iff,
        field_listOf_eq_ok_iff, Body.mk.injEq, Value.map.injEq]
      constructor
      · rintro ⟨_, _, ⟨⟨results, hresults⟩, errors, herrors⟩, rfl, rfl⟩
        exact ⟨fields, results, errors, rfl, hresults, herrors⟩
      · rintro ⟨_, results, errors, rfl, hresults, herrors⟩
        exact ⟨_, _, ⟨⟨results, hresults⟩, errors, herrors⟩, rfl, rfl⟩
  | null | bool | int | float | str | list =>
      simp [Body.check, Checked.object, Checked.fail]

end Bodies

end Response

/--
Is a reply taken for a success that lists results, read as these tables?  It has a
status of success, and its body is an object that lists no errors, and results of which
each is the table in its place.
-/
structure Reply.Returns (reply : Reply) (results : List Value) (tables : List Response.Table) :
    Prop where
  body : ∃ status text fields, reply = .answer status text ∧ 200 ≤ status ∧ status ≤ 299 ∧
    Json.parseBytes text = .ok (.map fields) ∧ Response.Lists fields "errors" [] ∧
    Response.Lists fields "results" results
  read : List.Forall₂ (fun v table => Response.Table.check v = .ok table) results tables

namespace Connection

theorem bodyOfText_eq_ok_iff {text : String} {body : Response.Body} :
    bodyOfText text = .ok body ↔
      ∃ v, Json.parseBytes text = .ok v ∧ Response.Body.check v = .ok body := by
  unfold bodyOfText
  cases Json.parseBytes text with
  | error fault =>
      simp
  | ok v =>
      cases hbody : Response.Body.check v <;> simp [hbody]

/-- The tables of a reply are the results that it lists, read one by one. -/
theorem tablesOfReply_eq_ok_iff {reply : Reply} {tables : List Response.Table} :
    tablesOfReply reply = .ok tables ↔ ∃ results, reply.Returns results tables := by
  constructor
  · intro h
    cases reply with
    | timeout | refused =>
        cases h
    | answer status text =>
        simp only [tablesOfReply] at h
        split_ifs at h with hstatus
        cases hbody : bodyOfText text with
        | error e =>
            rw [hbody] at h
            cases h
        | ok body =>
            simp only [hbody] at h
            split_ifs at h with hfaults
            obtain ⟨v, hparse, hcheck⟩ := bodyOfText_eq_ok_iff.1 hbody
            obtain ⟨fields, results, errors, rfl, ⟨hresults, htables⟩, herrors, hread⟩ :=
              Response.Body.check_eq_ok_iff.1 hcheck
            -- no faults are read from no errors only
            rw [List.isEmpty_iff.1 hfaults, List.forall₂_nil_right_iff] at hread
            subst hread
            obtain rfl : body.tables = tables := Except.ok.inj h
            exact ⟨results, ⟨status, text, fields, rfl, by omega, by omega, hparse, herrors,
              hresults⟩, htables⟩
  · rintro ⟨results, ⟨status, text, fields, rfl, hlow, hhigh, hparse, herrors, hresults⟩, hread⟩
    have hbody : bodyOfText text = .ok ⟨tables, []⟩ :=
      bodyOfText_eq_ok_iff.2 ⟨.map fields, hparse, Response.Body.check_eq_ok_iff.2
        ⟨fields, results, [], rfl, ⟨hresults, hread⟩, herrors, .nil⟩⟩
    have hstatus : ¬ (status < 200 ∨ 299 < status) := by
      omega
    simp [tablesOfReply, hstatus, hbody]

/-- Does a submission that succeeds have one table for each of its statements? -/
def Accounts (c : Connection) (ss : List Statement) (script : List Reply) : Prop :=
  ∀ tables, (c.submit ss script).result = .ok tables → tables.length = ss.length

section Accounts

variable {c : Connection} {client : Client} {ss : List Statement} {script : List Reply}

/-- A submission succeeds when its request can be made and the next reply is a success. -/
theorem submit_eq_ok_iff
    (hclient : c.client = some client) (hss : ss ≠ []) {tables : List Response.Table} :
    (c.submit ss script).result = .ok tables ↔
      (∃ request, c.request client ss = .ok request) ∧
        ∃ results, (nextReply ss.length script).1.Returns results tables := by
  cases hrequest : c.request client ss with
  | error e =>
      simp [submit_of_request_eq_error hss hclient hrequest]
  | ok request =>
      simp [submit_of_request_eq_ok hss hclient hrequest, tablesOfReply_eq_ok_iff]

/--
On an open connection a submission that succeeds has the results that the reply
lists, each in its place.  It has one for each statement, whatever the statements are,
exactly when the reply lists as many as there are statements or is no success.
-/
theorem accounts_iff
    (hclient : c.client = some client) (hss : ss ≠ []) :
    (∀ tables, (c.submit ss script).result = .ok tables →
        ∃ results, (nextReply ss.length script).1.Returns results tables) ∧
      (c.Accounts ss script ↔
        ∀ results tables, (∃ request, c.request client ss = .ok request) →
          (nextReply ss.length script).1.Returns results tables → results.length = ss.length) := by
  refine ⟨fun tables h => ((submit_eq_ok_iff hclient hss).1 h).2, ?_⟩
  constructor
  · intro haccounts results tables hrequest hreturns
    rw [hreturns.read.length_eq]
    exact haccounts tables ((submit_eq_ok_iff hclient hss).2 ⟨hrequest, results, hreturns⟩)
  · intro h tables hok
    obtain ⟨hrequest, results, hreturns⟩ := (submit_eq_ok_iff hclient hss).1 hok
    rw [← hreturns.read.length_eq]
    exact h results tables hrequest hreturns

/-- A connection opened without credentials. -/
def nearby : Connection :=
  (new "http://localhost:7474" .null (.str "/db/data/transaction/commit") (.int 30)
    (.int 16)).connect.1

/-- A body with a result for each of two statements, with fields left out and unknown keys. -/
def twoResults : String :=
  "\x7b\"results\": [\x7b\"columns\": [\"n\"]\x7d, \x7b\"stats\": 1\x7d], \"id\": null\x7d"

/-- Two results are accounted for two statements. -/
theorem two_results_are_accounted :
    nearby.client.isSome = true ∧
      (nearby.submit [⟨"RETURN 1 AS n", []⟩, ⟨"RETURN 2", []⟩] [.answer 200 twoResults]).result =
        .ok [⟨["n"], []⟩, ⟨[], []⟩] ∧
      nearby.Accounts [⟨"RETURN 1 AS n", []⟩, ⟨"RETURN 2", []⟩] [.answer 200 twoResults] := by
  have hopen : nearby.client.isSome = true := by
    decide +kernel
  obtain ⟨client, hclient⟩ := Option.isSome_iff_exists.1 hopen
  refine ⟨hopen, by decide +kernel, (accounts_iff hclient (by simp)).2.2 ?_⟩
  rintro results tables - ⟨⟨status, text, fields, hreply, -, -, hparse, -, hresults⟩, -⟩
  obtain ⟨-, rfl⟩ := Reply.answer.inj hreply
  have hbody : Json.parseBytes twoResults =
      .ok (.map [("results", .list [.map [("columns", .list [.str "n"])],
        .map [("stats", .int 1)]]), ("id", .null)]) := by
    decide +kernel
  obtain rfl := Value.map.inj (Except.ok.inj (hparse.symm.trans hbody))
  rw [hresults.unique (Or.inl rfl)]
  rfl

/-- One statement is run with success by a reply that lists no result. -/
theorem empty_body_is_success :
    nearby.client.isSome = true ∧
      (nearby.submit [⟨"RETURN 1", []⟩] [.answer 200 "\x7b\x7d"]).result = .ok [] ∧
      ¬ nearby.Accounts [⟨"RETURN 1", []⟩] [.answer 200 "\x7b\x7d"] := by
  have hok : (nearby.submit [⟨"RETURN 1", []⟩] [.answer 200 "\x7b\x7d"]).result = .ok [] := by
    decide +kernel
  refine ⟨by decide +kernel, hok, fun haccounts => ?_⟩
  have hlength := haccounts [] hok
  simp at hlength

end Accounts

end Connection
end CypherBatch
