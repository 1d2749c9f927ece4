import CypherBatch.Proofs.Accounting
import CypherBatch.Proofs.Encodings
import CypherBatch.Proofs.Lifecycle
import CypherBatch.Proofs.Loading
import Mathlib.Data.List.DropRight

/-!
# Credentials on their way

Credentials that settings accept have a colon, so they can be taken apart into a user
name and a password.  Put together again with a colon they are the same text, whichever
colon it was, and the header of a request is the Base64 text of its bytes.

The connection of a session has one client whenever it is open, and every request is sent
through the client.  So what was configured arrives with every request, also after the
connection was closed and opened again.
-/

namespace CypherBatch

open Outcome

namespace Credentials

/-- A text with a colon is taken apart into credentials, whose text it is. -/
theorem exists_parse? {text : String} (h : ':' ∈ text.toList) :
    ∃ credentials, parse? text = some credentials ∧ credentials.text = text := by
  obtain ⟨⟨user, password⟩, hsplit⟩ := Option.isSome_iff_exists.1 (splitAtColon_isSome_iff.2 h)
  refine ⟨⟨String.ofList user, String.ofList password⟩, ?_, ?_⟩
  · rw [parse?, hsplit, Option.map_some]
  · rw [Credentials.text, ← String.toList_inj]
    simp [splitAtColon_join hsplit]

/-- Does the value of a header carry the text, as the Base64 text of its bytes? -/
def Carries (header : Option String) (text : String) : Prop :=
  ∃ encoded bytes, header = some ("Basic " ++ encoded) ∧
    Text.unbase64? encoded.toList = some bytes ∧ Text.readUtf8? bytes = some text

/-- The header of credentials carries their text. -/
theorem carries_header (c : Credentials) : Carries (some c.header) c.text :=
  ⟨_, _, rfl, by rw [String.toList_ofList, Text.unbase64?_base64], Text.readUtf8?_toUTF8 c.text⟩

end Credentials

namespace Checked

/-- A field that passes its check has a value that passes, or the one that stands in for it. -/
theorem field_eq_ok_cases
    {α : Type} {fields : PropertyMap} {name : String} {default a : α} {check : Value → Checked α}
    (h : field fields name default check = .ok a) :
    a = default ∨ ∃ v, check v = .ok a := by
  unfold field at h
  split at h
  · rename_i v hv
    exact Or.inr ⟨v, under_eq_ok_iff.1 h⟩
  · exact Or.inl (Except.ok.inj h).symm

theorem exists_of_object_eq_ok
    {α : Type} {check : PropertyMap → Checked α} {v : Value} {a : α}
    (h : object check v = .ok a) : ∃ fields, check fields = .ok a := by
  cases v with
  | map fields =>
      exact ⟨fields, h⟩
  | null | bool | int | float | str | list =>
      cases h

end Checked

namespace Settings

/-- Settings that are accepted, on their own or as those of a whole program. -/
inductive Accepted (settings : Settings) : Prop
  | alone {environment : List (String × String)} {args : PropertyMap}
      (h : load environment args = .ok settings)
  | nested {environment : List (String × String)} {args : PropertyMap}
      (h : loadNested environment args = .ok settings)

/-- Accepted settings have passed the check of their fields. -/
theorem Accepted.exists_check {settings : Settings} (h : settings.Accepted) :
    ∃ fields, check fields = .ok settings := by
  cases h with
  | alone h =>
      exact ⟨_, h⟩
  | nested h =>
      rw [loadNested, bind_eq] at h
      obtain ⟨held, -, h⟩ := bind_eq_ok_iff.1 h
      dsimp only at h
      split at h
      · rename_i checked hchecked
        obtain rfl := Except.ok.inj h
        split at hchecked
        · exact ⟨_, hchecked⟩
        · obtain ⟨fields, hfields⟩ :=
            Checked.exists_of_object_eq_ok (Checked.under_eq_ok_iff.1 hchecked)
          exact ⟨_, hfields⟩
      · cases h

/-- Slashes are dropped once. -/
theorem dropSlashes_dropSlashes (s : String) : dropSlashes (dropSlashes s) = dropSlashes s := by
  have hchars (s : String) : (dropSlashes s).toList = s.toList.rdropWhile (· = '/') := by
    rw [dropSlashes, String.toList_ofList]
    rfl
  rw [← String.toList_inj, hchars, hchars]
  exact List.rdropWhile_idempotent _ _

section Checks

variable {fields : PropertyMap} {settings : Settings}

/-- Credentials that pass the check have a colon. -/
theorem colon_mem_of_optional_checkAuth {v : Value} {text : String}
    (h : Checked.optional checkAuth v = .ok (some text)) : ':' ∈ text.toList := by
  cases v with
  | str s =>
      simp only [Checked.optional, checkAuth] at h
      split at h
      · rename_i hcolon
        obtain rfl := Option.some.inj (Except.ok.inj h)
        exact List.contains_iff_mem.1 hcolon
      · cases h
  | null | bool | int | float | list | map =>
      cases h

/-- What accepted settings say: the credentials have a colon, and the address ends in no slash. -/
theorem of_check (h : check fields = .ok settings) :
    (∀ auth, settings.auth = some auth → ':' ∈ auth.toList) ∧
      dropSlashes settings.url = settings.url := by
  simp only [check, map_eq_ok_iff, Prod.exists, Checked.both_eq_ok_iff] at h
  obtain ⟨url, auth, path, timeout, connections, author, ⟨hurl, hauth, -⟩, rfl⟩ := h
  constructor
  · rintro text rfl
    obtain hnone | ⟨v, hv⟩ := Checked.field_eq_ok_cases hauth
    · cases hnone
    · exact colon_mem_of_optional_checkAuth hv
  · obtain rfl | ⟨v, hv⟩ := Checked.field_eq_ok_cases hurl
    · have hdefault : dropSlashes defaultUrl = defaultUrl := by
        decide +kernel
      exact hdefault
    · obtain ⟨given, -, rfl⟩ := map_eq_ok_iff.1 hv
      exact dropSlashes_dropSlashes given

end Checks

end Settings

namespace Session

open Connection

/-- The connection that settings describe, before it is opened. -/
def described (settings : Settings) (auth : String) : Connection :=
  Connection.new settings.url (.str auth) (.str settings.transactionPath)
    (.float settings.timeout) (.int settings.maxConnections)

section Start

variable {settings : Settings} {auth : String}

theorem start_of_newClient
    {client : Client} (hauth : settings.auth = some auth)
    (hclient : (described settings auth).newClient = .ok client) :
    start settings = .ok ((described settings auth).opened client) := by
  have hconnect : (described settings auth).connect =
      ((described settings auth).opened client, .ok ()) :=
    connect_of_newClient_eq_ok (isClosed_new _ _ _ _ _) hclient
  simp only [described] at hconnect
  simp only [start, hauth, described, hconnect]

/-- The client that credentials with a colon give, below an address that can be read. -/
theorem exists_newClient_described
    (hcolon : ':' ∈ auth.toList) {base : Address}
    (hbase : Address.base (Settings.dropSlashes settings.url) = .ok base) :
    ∃ header, (described settings auth).newClient = .ok (Client.strict base (some header)) ∧
      Credentials.Carries (some header) auth := by
  obtain ⟨credentials, hparse, htext⟩ := Credentials.exists_parse? hcolon
  have hvacant : (Value.str auth).isVacant = false := by
    have hne : auth ≠ "" := by
      rintro rfl
      cases hcolon
    simp [Value.isVacant, hne]
  refine ⟨credentials.header, ?_, ?_⟩
  · simp [newClient, described, Connection.new, Connection.authorization, hvacant, hparse, hbase]
  · rw [← htext]
    exact Credentials.carries_header credentials

end Start

/-- In every stage of a connection, what is sent carries the header of its client. -/
theorem authorization_of_run
    {start c : Connection} (hstart : start.IsClosed) (h : Stage start c) {client : Client}
    (hclient : start.newClient = .ok client) (steps : List (Step × List Reply)) :
    ∀ o ∈ run c steps, ∀ request ∈ o.exchange.requests,
      ∃ address : Address,
        request.authorization = client.authorization.or address.authorization := by
  induction steps generalizing c with
  | nil =>
      simp [run]
  | cons s steps ih =>
      obtain ⟨s, script⟩ := s
      rw [run, List.forall_mem_cons]
      refine ⟨fun request hrequest => ?_, ih (stage_step hstart h s script)⟩
      -- the connection is open, so it has the only client that its stage allows
      obtain ⟨current, address, ss, hcurrent, rfl⟩ := exists_client_of_request hrequest
      obtain ⟨opened, hopened, rfl⟩ := h.eq_opened hstart (by simp [hcurrent])
      obtain rfl : opened = client := Except.ok.inj (hopened.symm.trans hclient)
      obtain rfl : opened = current := Option.some.inj hcurrent
      exact ⟨address, rfl⟩

/-- Credentials that settings accept arrive unchanged with every request of a session.

A session can be had exactly when there are credentials, provided that a client can be made
for the address of the settings.
-/
theorem credentials_arrive
    {settings : Settings} (h : settings.Accepted)
    (hbase : ∃ base, Address.base settings.url = .ok base) :
    ((∃ c, start settings = .ok c) ↔ settings.auth ≠ none) ∧
      (settings.auth = none → start settings = .error .noCredentials) ∧
      ∀ auth c, settings.auth = some auth → start settings = .ok c →
        c.initialized = true ∧ c.client.isSome = true ∧
          ∀ steps, ∀ o ∈ run c steps, ∀ request ∈ o.exchange.requests,
            Credentials.Carries request.authorization auth := by
  obtain ⟨fields, hcheck⟩ := h.exists_check
  obtain ⟨hcolon, hurl⟩ := Settings.of_check hcheck
  obtain ⟨base, hbase⟩ := hbase
  rw [← hurl] at hbase
  refine ⟨⟨?_, ?_⟩, Loader.start_of_no_credentials, ?_⟩
  · rintro ⟨c, hc⟩ hnone
    rw [Loader.start_of_no_credentials hnone] at hc
    cases hc
  · intro hsome
    obtain ⟨auth, hauth⟩ := Option.ne_none_iff_exists'.1 hsome
    obtain ⟨header, hclient, -⟩ := exists_newClient_described (hcolon auth hauth) hbase
    exact ⟨_, start_of_newClient hauth hclient⟩
  · intro auth c hauth hc
    obtain ⟨header, hclient, hcarries⟩ := exists_newClient_described (hcolon auth hauth) hbase
    obtain rfl := Except.ok.inj ((start_of_newClient hauth hclient).symm.trans hc)
    refine ⟨rfl, rfl, fun steps o ho request hrequest => ?_⟩
    obtain ⟨address, hheader⟩ := authorization_of_run (isClosed_new _ _ _ _ _)
      (Stage.opened hclient) hclient steps o ho request hrequest
    rw [hheader]
    exact hcarries

/-- Settings with an empty user name and colons in the password. -/
def colonSettings : Settings where
  url := "http://db:7474"
  auth := some ":p\u00e4:ss:"
  transactionPath := Settings.defaultPath
  timeout := Settings.defaultTimeout
  maxConnections := Settings.defaultConnections
  updatedBy := Settings.defaultAuthor

/-- A session that is closed and opened again. -/
def reopenedSession : List (Step × List Reply) :=
  [(.operate .getNode [.str "alpha"], [.timeout]), (.close none, []), (.enter, []),
    (.submit [⟨"RETURN 1", []⟩], [])]

/-- Both requests of the session carry the credentials, colons and all. -/
theorem colon_credentials_arrive :
    (colonSettings.Accepted ∧ ∃ base, Address.base colonSettings.url = .ok base) ∧
      ∃ c, start colonSettings = .ok c ∧
        ((run c reopenedSession).flatMap fun o => o.exchange.requests.map Request.authorization) =
          [some "Basic OnDDpDpzczo=", some "Basic OnDDpDpzczo="] ∧
        ∀ o ∈ run c reopenedSession, ∀ request ∈ o.exchange.requests,
          Credentials.Carries request.authorization ":p\u00e4:ss:" := by
  have haccepted : colonSettings.Accepted := by
    refine @Settings.Accepted.alone _ [("NEO4J_AUTH", ":p\u00e4:ss:")]
      [("url", .str "http://db:7474//")] ?_
    decide +kernel
  have hbase : ∃ base, Address.base colonSettings.url = .ok base :=
    ⟨⟨"http", "", "db", some 7474, "", none, none⟩, by decide +kernel⟩
  obtain ⟨hstart, -, harrive⟩ := credentials_arrive haccepted hbase
  obtain ⟨c, hc⟩ := hstart.2 (by decide)
  have hheaders : (start colonSettings).map (fun c =>
      (run c reopenedSession).flatMap fun o => o.exchange.requests.map Request.authorization) =
        .ok [some "Basic OnDDpDpzczo=", some "Basic OnDDpDpzczo="] := by
    decide +kernel
  rw [hc] at hheaders
  exact ⟨⟨haccepted, hbase⟩, c, hc, Except.ok.inj hheaders,
    (harrive _ c rfl hc).2.2 reopenedSession⟩

end Session
end CypherBatch
