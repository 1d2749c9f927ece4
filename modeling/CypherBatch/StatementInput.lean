import CypherBatch.Json.Printer
import CypherBatch.ShapeError
import CypherBatch.Statement

/-!
# Statements as given

A caller may give a statement as its text, as a text with parameters, or as a
statement already made; and several of these in a list.  A pair of a text and
parameters that stands alone is one statement; a list is read item by item.

Parameters are a map, a list of pairs, or nothing.  A pair is a list of two
items, a text of two characters or a map of two keys.  A key may be any scalar;
numbers and truth values of equal worth are one key, of which the first spelling
and the last value count.  A key that is no text is written as its JSON text.
-/

namespace CypherBatch

/-- A value, or a statement that was made before. -/
inductive StatementItem where
  | value (v : Value)
  | made (s : Statement)
deriving DecidableEq

/-- What a caller gives as one or several statements. -/
inductive StatementInput where
  | item (x : StatementItem)
  | list (items : List StatementItem)
  /-- A fixed group of items, as an argument list is one. -/
  | group (items : List StatementItem)
deriving DecidableEq

/-- Why an input gives no statements. -/
inductive InputError where
  | shape (cause : ShapeError)
  /-- A pair of parameters has more or fewer than two items. -/
  | notPair
  /-- Parameters, a pair or a key is of a kind that cannot serve as one. -/
  | badParameters
  /-- Several statements are given by a value that has no items. -/
  | notItems
deriving DecidableEq

namespace StatementItem

def shown : StatementItem → String
  | .value v => v.shown
  | .made s => "QueryUnit(query=" ++ Text.quoted s.query ++ ", params=" ++
      Value.shown (.map s.params) ++ ")"

/-- Does nothing stand here? -/
def isVacant : StatementItem → Bool
  | .value v => v.isVacant
  | .made _ => false

/-- The items of an item; a statement has its text and its parameters. -/
def items? : StatementItem → Option (List Value)
  | .value v => v.items?
  | .made s => some [.str s.query, .map s.params]

/-- The name of a parameter given by a value. -/
def keyText? : Value → Option String
  | .str s => some s
  | .null => some "null"
  | .bool b => some (if b then "true" else "false")
  | .int n => some (Decimal.integerText n)
  | .float x => some (Json.floatText x)
  | .list _ | .map _ => none

/-- A parameter given as a pair: a value that can be a key, its text, and the value under it. -/
def pairOf (v : Value) : Except InputError (Value × String × Value) :=
  match v.items? with
  | none => .error .badParameters
  | some [key, v] =>
      match keyText? key with
      | some name => .ok (key, name, v)
      | none => .error .badParameters
  | some _ => .error .notPair

/-- The whole number that a value is worth; true is worth one. -/
def worth? : Value → Option Int
  | .bool b => some (if b then 1 else 0)
  | .int n => some n
  | .float x => x.toInt?
  | _ => none

/-- Are two values one key? -/
def sameKey (a b : Value) : Bool :=
  match worth? a, worth? b with
  | some m, some n => m = n
  | _, _ => a = b

/-- Add a parameter; one whose key is there gives it a new value. -/
def putPair (pair : Value × String × Value) :
    List (Value × String × Value) → List (Value × String × Value)
  | [] => [pair]
  | (key, name, v) :: rest =>
      if sameKey key pair.1 then (key, name, pair.2.2) :: rest
      else (key, name, v) :: putPair pair rest

def paramsOf (pairs : List (Value × String × Value)) : PropertyMap :=
  PropertyMap.ofPairs ((pairs.foldl (fun params pair => putPair pair params) []).map (·.2))

def params (x : StatementItem) : Except InputError PropertyMap :=
  if x.isVacant then .ok []
  else
    match x with
    | .value (.map fields) => .ok fields
    | x =>
        match x.items? with
        | none => .error .badParameters
        | some items => (items.mapM pairOf).map paramsOf

end StatementItem

namespace StatementInput

def shown : StatementInput → String
  | .item x => x.shown
  | .list items => "[" ++ String.intercalate ", " (items.map StatementItem.shown) ++ "]"
  | .group [x] => "(" ++ x.shown ++ ",)"
  | .group items => "(" ++ String.intercalate ", " (items.map StatementItem.shown) ++ ")"

/-- The items of an input that is a list or a group. -/
def members? : StatementInput → Option (List StatementItem)
  | .item (.value (.list items)) => some (items.map .value)
  | .item _ => none
  | .list items => some items
  | .group items => some items

/-- The one statement that an input gives. -/
def statement (input : StatementInput) : Except InputError Statement :=
  match input with
  | .item (.made s) => .ok s
  | .item (.value (.str query)) => .ok ⟨query, []⟩
  | input =>
      match input.members? with
      | some [.value (.str query), second] => second.params.map fun params => ⟨query, params⟩
      | _ => .error (.shape (.notStatement input.shown))

/-- Is the input one statement, not several? -/
def isSingle : StatementInput → Bool
  | .item (.made _) => true
  | .item (.value (.str _)) => true
  | .group [.value (.str _), _] => true
  | _ => false

/-- The items of an input that gives several statements. -/
def several? : StatementInput → Option (List StatementItem)
  | .item x => x.items?.map fun items => items.map .value
  | .list items => some items
  | .group items => some items

def statements (input : StatementInput) : Except InputError (List Statement) :=
  if input.isSingle then input.statement.map fun s => [s]
  else
    match input.several? with
    | none => .error .notItems
    | some items => items.mapM fun x => statement (.item x)

end StatementInput
end CypherBatch
