import CypherBatch.Property.Flatten
import CypherBatch.Validation
import CypherBatch.Value.Shown

/-!
# Responses

The endpoint answers a transaction with one table for each statement, in the
order of the statements, and with the faults that made it roll back.  This
module checks the body of an answer and reads its tables.  Stored properties are
flat; `Table.nestedRows` gives them back their nested shape.
-/

namespace CypherBatch
namespace Response

/-- One row of a table, with data about its cells. -/
structure Row where
  cells : List Value
  info : Option (List Value)
deriving DecidableEq

/-- What one statement returned. -/
structure Table where
  columns : List String
  rows : List Row
deriving DecidableEq

/-- A fault that the server reports. -/
structure Fault where
  code : String
  message : String
deriving DecidableEq

/-- The body of an answer. -/
structure Body where
  tables : List Table
  faults : List Fault
deriving DecidableEq

def Row.check : Value → Checked Row :=
  Checked.object fun fields =>
    (Checked.both (Checked.field fields "row" [] (Checked.listOf Checked.any))
      (Checked.field fields "meta" none (Checked.optional (Checked.listOf Checked.any)))).map
      fun (cells, info) => ⟨cells, info⟩

def Table.check : Value → Checked Table :=
  Checked.object fun fields =>
    (Checked.both (Checked.field fields "columns" [] (Checked.listOf Checked.text))
      (Checked.field fields "data" [] (Checked.listOf Row.check))).map
      fun (columns, rows) => ⟨columns, rows⟩

def Fault.check : Value → Checked Fault :=
  Checked.object fun fields =>
    (Checked.both (Checked.field fields "code" "" Checked.text)
      (Checked.field fields "message" "" Checked.text)).map
      fun (code, message) => ⟨code, message⟩

def Body.check : Value → Checked Body :=
  Checked.object fun fields =>
    (Checked.both (Checked.field fields "results" [] (Checked.listOf Table.check))
      (Checked.field fields "errors" [] (Checked.listOf Fault.check))).map
      fun (tables, faults) => ⟨tables, faults⟩

/-- The text of a rolled-back transaction: its faults, or that they are unknown. -/
def rollbackMessage (faults : List Fault) : String :=
  let summary := String.intercalate "; " (faults.map fun fault => fault.code ++ ": " ++ fault.message)
  "Transaction failed with " ++ Decimal.naturalText faults.length ++ " error(s): " ++
    (if summary = "" then "unknown error" else summary)

mutual

/-- A cell with the maps in it, but not those inside them, given their nested shape. -/
def nestedCell : Value → Value
  | .map fields => .map (PropertyMap.unflatten PropertyMap.separator fields)
  | .list items => .list (nestedCells items)
  | v => v

/-- Cells with the maps in them given their nested shape. -/
def nestedCells : List Value → List Value
  | [] => []
  | v :: rest => nestedCell v :: nestedCells rest

end

/-- Why a column cannot be read. -/
inductive ColumnError where
  /-- The statement did not return the column. -/
  | unknown (name : String) (columns : List String)
  /-- A row ends before the column. -/
  | shortRow
deriving DecidableEq

def ColumnError.message? : ColumnError → Option String
  | .unknown name columns =>
      some ("Column " ++ Text.quoted name ++ " not in " ++ Value.shownTexts columns)
  | .shortRow => none

namespace Table

def cells (t : Table) : List (List Value) :=
  t.rows.map Row.cells

/-- The cells of all rows, maps given their nested shape. -/
def nestedRows (t : Table) : List (List Value) :=
  t.cells.map nestedCells

/-- The cell at an index of every row. -/
def cellsAt (index : Nat) : List Row → Except ColumnError (List Value)
  | [] => .ok []
  | row :: rest =>
      match row.cells[index]? with
      | none => .error .shortRow
      | some v => (cellsAt index rest).map fun vs => v :: vs

/-- The values of the first column of a name. -/
def column (t : Table) (name : String) : Except ColumnError (List Value) :=
  match t.columns.findIdx? (· = name) with
  | none => .error (.unknown name t.columns)
  | some index => cellsAt index t.rows

end Table
end Response
end CypherBatch
