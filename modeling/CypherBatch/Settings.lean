import CypherBatch.Json.Parser
import CypherBatch.Settings.Number
import CypherBatch.Validation

/-!
# Settings

The settings of a connection are given by the caller or, for what the caller
leaves out, by environment variables named after them in any letter case.  Each
field has its own check; all issues are reported together, in the order of the
fields.
-/

namespace CypherBatch

/-- How to reach the endpoint and what to write as the author of changes. -/
structure Settings where
  url : String
  auth : Option String
  transactionPath : String
  timeout : Double
  maxConnections : Int
  updatedBy : String
deriving DecidableEq

namespace Settings

/-- The text without the slashes at its end. -/
def dropSlashes (s : String) : String :=
  String.ofList (s.toList.reverse.dropWhile (· = '/')).reverse

def defaultUrl : String := "http://localhost:7474"

def defaultPath : String := "/db/data/transaction/commit"

/-- Seconds until a request is given up. -/
def defaultTimeout : Double := Double.ofInt 30

/-- The longest time until a request is given up. -/
def longestTimeout : Double := Double.ofInt 300

/-- How many connections may be open. -/
def defaultConnections : Int := 16

def defaultAuthor : String := "bot"

/-- Credentials, which need a colon. -/
def checkAuth (v : Value) : Checked String :=
  match v with
  | .str s => if s.toList.contains ':' then .ok s else Checked.fail .badCredentials
  | _ => Checked.fail .notText

/-- A time limit above zero.  What is no number is not at most anything. -/
def checkTimeoutRange (x : Double) : Checked Double :=
  if x.isNaN || longestTimeout.order < x.order then Checked.fail .notAtMost
  else if x.order ≤ 0 then Checked.fail .notAbove
  else .ok x

/-- A time limit, as a number, a truth value or text. -/
def checkTimeout (v : Value) : Checked Double :=
  match v with
  | .float x => checkTimeoutRange x
  | .int n => if (Double.ofInt n).isFinite then checkTimeoutRange (Double.ofInt n)
      else Checked.fail .notNumber
  | .bool b => checkTimeoutRange (Double.ofInt (if b then 1 else 0))
  | .str s =>
      match readNumber? s with
      | some x => checkTimeoutRange x
      | none => Checked.fail .unreadableNumber
  | _ => Checked.fail .notNumber

/-- A number of connections from 1 to 256. -/
def checkConnectionsRange (n : Int) : Checked Int :=
  if 256 < n then Checked.fail .notAtMost
  else if n < 1 then Checked.fail .notAtLeast
  else .ok n

/-- A number of connections, as a number without fraction, a truth value or text. -/
def checkConnections (v : Value) : Checked Int :=
  match v with
  | .int n => checkConnectionsRange n
  | .bool b => checkConnectionsRange (if b then 1 else 0)
  | .float x =>
      if !x.isFinite then Checked.fail .notFinite
      else
        match x.toInt? with
        | some n => if n.natAbs < Nat.pow 2 63 then checkConnectionsRange n else Checked.fail .tooLarge
        | none => Checked.fail .hasFraction
  | .str s =>
      if isOverlong s then Checked.fail .tooLarge
      else
        match readInteger? s with
        | some n => checkConnectionsRange n
        | none => Checked.fail .unreadableInteger
  | _ => Checked.fail .notInteger

/-- An author, who has a name. -/
def checkAuthor (v : Value) : Checked String :=
  match v with
  | .str s => if s = "" then Checked.fail .textTooShort else .ok s
  | _ => Checked.fail .notText

def check (fields : PropertyMap) : Checked Settings :=
  let url := Checked.field fields "url" defaultUrl fun v => (Checked.text v).map dropSlashes
  let auth := Checked.field fields "auth" none (Checked.optional checkAuth)
  let path := Checked.field fields "transaction_path" defaultPath Checked.text
  let timeout := Checked.field fields "timeout" defaultTimeout checkTimeout
  let connections := Checked.field fields "max_connections" defaultConnections checkConnections
  let author := Checked.field fields "updated_by" defaultAuthor checkAuthor
  (Checked.both url (Checked.both auth (Checked.both path
    (Checked.both timeout (Checked.both connections author))))).map
    fun (url, auth, path, timeout, connections, author) =>
      ⟨url, auth, path, timeout, connections, author⟩

def fieldNames : List String :=
  ["url", "auth", "transaction_path", "timeout", "max_connections", "updated_by"]

/-- The name that the variable for all fields has, in lower case. -/
def variableName : String := "neo4j"

/-- The name of the variable for a field, in lower case. -/
def fieldVariable (name : String) : String :=
  variableName ++ "_" ++ name

/-- The value of a variable, whose name may be in any letter case; of two the last counts. -/
def variableText? (environment : List (String × String)) (name : String) : Option String :=
  (environment.reverse.find? fun entry => entry.1.map Char.toLower = name).map (·.2)

def environmentFields (environment : List (String × String)) : PropertyMap :=
  fieldNames.filterMap fun name =>
    (variableText? environment (fieldVariable name)).map fun text => (name, .str text)

/-- The settings of a caller, completed from the environment. -/
def load (environment : List (String × String)) (args : PropertyMap) : Checked Settings :=
  check (PropertyMap.insertAll (environmentFields environment) args)

/-! ## Settings inside those of a whole program -/

/-- Why settings inside those of a program cannot be had. -/
inductive NestedError where
  | invalid (issues : List Issue)
  /-- The variable for all fields holds no JSON. -/
  | unreadable
deriving DecidableEq

/-- The fields of an object under their proper names, which may be in any letter case. -/
def properNames (fields : PropertyMap) : PropertyMap :=
  PropertyMap.ofPairs <| fields.map fun (name, v) =>
    let lower := name.map Char.toLower
    (if fieldNames.contains lower then lower else name, v)

/-- What the variable for all fields holds; null is nothing. -/
def nestedVariable (environment : List (String × String)) : Except NestedError (Option Value) :=
  match variableText? environment variableName with
  | none => .ok none
  | some text =>
      match Json.parse text with
      | .error _ => .error .unreadable
      | .ok .null => .ok none
      | .ok (.map fields) => .ok (some (.map (properNames fields)))
      | .ok v => .ok (some v)

/-- What a caller gives, laid over what the environment holds. -/
def overlay : Option Value → Option Value → Option Value
  | some (.map held), some (.map given) => some (.map (PropertyMap.insertAll held given))
  | _, some given => some given
  | held, none => held

/--
The settings inside those of a whole program, where they are one field.  Issues
of a given field lie under its name, issues of the environment alone do not.
-/
def loadNested (environment : List (String × String)) (args : PropertyMap) :
    Except NestedError Settings := do
  let given := overlay (← nestedVariable environment) (PropertyMap.get? args variableName)
  let checked :=
    match given with
    | none => load environment []
    | some v => Checked.under (.field variableName) (Checked.object (load environment) v)
  match checked with
  | .ok settings => return settings
  | .error issues => throw (.invalid issues)

end Settings
end CypherBatch
