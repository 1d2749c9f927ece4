import CypherBatch.Value

/-!
# Validation

Data from outside is checked field by field.  A check gives the value it reads
or all the issues it finds, each with the path at which it lies.  Issues of
several fields are listed in the order of the fields.
-/

namespace CypherBatch

/-- One step on the way to a part of a value. -/
inductive PathStep where
  | field (name : String)
  | index (n : Nat)
deriving DecidableEq

/-- What is wrong at some place. -/
inductive IssueKind where
  | notObject
  | notText
  | notList
  | textTooShort
  | badCredentials
  | notNumber
  | unreadableNumber
  | notInteger
  | unreadableInteger
  | tooLarge
  | hasFraction
  | notFinite
  | notAbove
  | notAtLeast
  | notAtMost
deriving DecidableEq, Repr

namespace IssueKind

def name : IssueKind → String
  | notObject => "model_type"
  | notText => "string_type"
  | notList => "list_type"
  | textTooShort => "string_too_short"
  | badCredentials => "value_error"
  | notNumber => "float_type"
  | unreadableNumber => "float_parsing"
  | notInteger => "int_type"
  | unreadableInteger => "int_parsing"
  | tooLarge => "int_parsing_size"
  | hasFraction => "int_from_float"
  | notFinite => "finite_number"
  | notAbove => "greater_than"
  | notAtLeast => "greater_than_equal"
  | notAtMost => "less_than_equal"

end IssueKind

/-- One issue and where it lies. -/
structure Issue where
  path : List PathStep
  kind : IssueKind
deriving DecidableEq

/-- A value that was read, or the issues found. -/
abbrev Checked (α : Type) := Except (List Issue) α

namespace Checked

variable {α β : Type}

/-- A single issue at this place. -/
def fail (kind : IssueKind) : Checked α :=
  .error [⟨[], kind⟩]

/-- Place the issues of a check one step further down. -/
def under (step : PathStep) : Checked α → Checked α
  | .ok x => .ok x
  | .error issues => .error (issues.map fun issue => { issue with path := step :: issue.path })

/-- Two checks side by side, the issues of the first before those of the second. -/
def both : Checked α → Checked β → Checked (α × β)
  | .ok x, .ok y => .ok (x, y)
  | .ok _, .error issues => .error issues
  | .error issues, .ok _ => .error issues
  | .error first, .error second => .error (first ++ second)

/-- Check the items of a list, the first of which has the given index. -/
def eachFrom (check : Value → Checked α) : Nat → List Value → Checked (List α)
  | _, [] => .ok []
  | n, v :: rest =>
      (both (under (.index n) (check v)) (eachFrom check (n + 1) rest)).map fun (x, xs) => x :: xs

def text : Value → Checked String
  | .str s => .ok s
  | _ => fail .notText

def any (v : Value) : Checked Value :=
  .ok v

/-- A list whose items all pass a check. -/
def listOf (check : Value → Checked α) : Value → Checked (List α)
  | .list items => eachFrom check 0 items
  | _ => fail .notList

/-- Null, or a value that passes a check. -/
def optional (check : Value → Checked α) : Value → Checked (Option α)
  | .null => .ok none
  | v => (check v).map some

/-- An object whose fields pass a check. -/
def object (check : PropertyMap → Checked α) : Value → Checked α
  | .map fields => check fields
  | _ => fail .notObject

/-- A field of an object; a value stands in for a missing one. -/
def field (fields : PropertyMap) (name : String) (default : α) (check : Value → Checked α) :
    Checked α :=
  match PropertyMap.get? fields name with
  | some v => under (.field name) (check v)
  | none => .ok default

end Checked
end CypherBatch
