import Tabular.CommandLine.Command
import Tabular.Database
import Tabular.Filter.Vocabulary

/-!
# Executing commands

A command is an operation on a database, and its result is shown as JSON.
-/

set_option autoImplicit false

namespace Tabular

def rowsJson (a : Answer) : Json := .array (a.rows.map NamedRow.toJson)

def Filter.readOptional (text : Option String) : Except AccessError Filter :=
  (Filter.read (text.getD "")).mapError .invalidInput

def Command.execute : Command → Database.Operation Json
  | .tables => do
    let a ← Database.tables
    pure (rowsJson a)
  | .hasTable table => do
    let found ← Database.hasTable table
    pure (.object [("table", .text table), ("exists", .bool found)])
  | .columns table => do
    let types ← Database.types table
    pure (.object (Record.ofList (types.columns.map fun (name, type) => (name, .text type.name))))
  | .get table id => do
    let a ← Database.get table id
    pure (rowsJson a)
  | .list table filter order select limit => do
    let filter ← Database.Operation.lift (Filter.readOptional filter)
    let a ← Database.list table ⟨order, filter, select, limit⟩
    pure (rowsJson a)
  | .add table fields => do
    let id ← Database.add table fields
    pure (.object [("id", .int id.toInt)])
  | .update table id fields => do
    let changed ← Database.update table id fields
    pure (.object [("rows_affected", .nat changed)])
  | .delete table id => do
    let deleted ← Database.delete table id
    pure (.object [("rows_affected", .nat deleted)])
  | .query sql => do
    let a ← Database.query sql
    pure (.object [("rows_affected", .nat a.rowsAffected),
      ("last_insert_id", .int a.lastInsertId.toInt), ("rows", rowsJson a)])

end Tabular
