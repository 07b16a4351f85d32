import Tabular.Filter.Clause
import Tabular.Statement.Basic
import Tabular.Statement.Identifier
import Tabular.Statement.Order

/-!
# Statements for single tables

A request on a table becomes one parameterised statement. The table must have a
plain name and every column named must be one of the table's columns.
-/

set_option autoImplicit false

namespace Tabular

abbrev Field := String × String

structure ListRequest where
  order : List SortKey
  filter : Filter
  select : List String
  limit : Nat

namespace Statement

def checkTable (table : String) : Except AccessError Unit :=
  if Identifier.isPlain table then .ok () else .error (.invalidInput (.tableName table))

def columnType (types : ColumnTypes) (column : String) : Except AccessError ColumnType :=
  match types.get? column with
  | some type => .ok type
  | none => .error (.unknownColumn column)

def commaSeparated (parts : List String) : String := ", ".intercalate parts

def fieldTypes (types : ColumnTypes) : List Field → Except AccessError (List ColumnType)
  | [] => .ok []
  | (column, _) :: rest => do
    let type ← columnType types column
    let others ← fieldTypes types rest
    .ok (type :: others)

def checkFields (table : String) (fields : List Field) (types : ColumnTypes) :
    Except AccessError (List ColumnType) := do
  checkTable table
  if fields.isEmpty then .error (.invalidInput .noFields)
  else fieldTypes types fields

def insert (table : String) (fields : List Field) (types : ColumnTypes) :
    Except AccessError Statement := do
  let bound ← checkFields table fields types
  .ok ⟨"INSERT INTO " ++ table ++ " (" ++
      commaSeparated (fields.map fun f => Identifier.quote f.1) ++ ") VALUES (" ++
      commaSeparated (fields.map fun _ => "?") ++ ")",
    fields.map Prod.snd, bound⟩

def idText (id : Int64) : String := Decimal.showInt id.toInt

theorem idText_eq (id : Int64) : idText id = toString id.toInt :=
  Decimal.showInt_eq_toString id.toInt

def update (table : String) (id : Int64) (fields : List Field) (types : ColumnTypes) :
    Except AccessError Statement := do
  let bound ← checkFields table fields types
  .ok ⟨"UPDATE " ++ table ++ " SET " ++ commaSeparated (fields.map fun f => f.1 ++ "=?") ++
      " WHERE id=?",
    fields.map Prod.snd ++ [idText id], bound ++ [.integer]⟩

def selectById (table : String) (id : Int64) : Except AccessError Statement := do
  checkTable table
  .ok ⟨"SELECT * FROM " ++ table ++ " WHERE id=?", [idText id], [.integer]⟩

def delete (table : String) (id : Int64) : Except AccessError Statement := do
  checkTable table
  .ok ⟨"DELETE FROM " ++ table ++ " WHERE id=?", [idText id], [.integer]⟩

def checkSelected (types : ColumnTypes) : List String → Except AccessError Unit
  | [] => .ok ()
  | column :: rest =>
    if column = "*" then checkSelected types rest
    else do
      let _ ← columnType types column
      checkSelected types rest

def checkOrder (types : ColumnTypes) : List SortKey → Except AccessError Unit
  | [] => .ok ()
  | key :: rest => do
    let _ ← columnType types key.column
    checkOrder types rest

def selection (select : List String) : String :=
  if select.isEmpty then "*" else commaSeparated select

def whereText (c : Clause) : String := if c.isEmpty then "" else " WHERE " ++ c.sql

def orderText (order : List SortKey) : String :=
  if order.isEmpty then "" else " ORDER BY " ++ commaSeparated (order.map SortKey.sql)

def limitText (limit : Nat) : String :=
  if limit = 0 then "" else " LIMIT " ++ Decimal.showNat limit

def list (table : String) (request : ListRequest) (types : ColumnTypes) :
    Except AccessError Statement := do
  checkTable table
  checkSelected types request.select
  let clause ← request.filter.clause types
  checkOrder types request.order
  .ok ⟨"SELECT " ++ selection request.select ++ " FROM " ++ table ++ whereText clause ++
      orderText request.order ++ limitText request.limit,
    clause.values, clause.types⟩

end Statement
end Tabular
