import Tabular.Decimal.Shortest
import Tabular.Sql.Connection

/-!
# Catalogs as scripts

A script is a text of statements that make a catalog with its rows anew. It begins
with a line by which it is known.
-/

set_option autoImplicit false

namespace Tabular.Sql

def literalLayout : Decimal.Layout := ⟨-5, 16, 1, false⟩

def Value.literal : Value → String
  | .null => "NULL"
  | .int i => Decimal.showInt i.toInt
  | .real x =>
    if x.isInf then (if x < 0 then "-9e999" else "9e999")
    else Decimal.signed x (Decimal.layout literalLayout (Decimal.shortest x))
  | .text s =>
    if s.toList.contains '\x00' then
      "CAST(x'" ++ Text.hexBytes (Text.Utf8.encode s) ++ "' AS TEXT)"
    else String.ofList ('\'' :: Text.doubled '\'' s.toList ++ ['\''])
  | .rawText bytes => "CAST(x'" ++ Text.hexBytes bytes ++ "' AS TEXT)"
  | .blob bytes => "x'" ++ Text.hexBytes bytes ++ "'"

namespace Table

def freeRowidName? (t : Table) : Option String :=
  if t.idColumn.isSome ∨ t.withoutRowid then none
  else rowidNames.find? fun name => (t.column? name).isNone

def insertion (t : Table) (id : Int64) (row : Row) : String :=
  let own := t.columns.map fun c => quotedName c.name
  let (names, row) := match t.freeRowidName? with
    | some name => (name :: own, Value.int id :: row)
    | none => (own, row)
  "INSERT INTO " ++ quotedName t.name ++ " (" ++ ", ".intercalate names ++ ") VALUES (" ++
    ", ".intercalate (row.map Value.literal) ++ ");"

def insertions (t : Table) : List String := t.rows.entries.map fun e => t.insertion e.1 e.2

end Table

def Item.statements : Item → List String
  | .table t =>
    if sameName t.name sequenceName then [] else (t.sql ++ ";") :: t.insertions
  | .index i => if i.origin = .created then [i.sql ++ ";"] else []
  | .view v => [v.sql ++ ";"]

def Catalog.sequenceStatements (c : Catalog) : List String :=
  match c.table? sequenceName with
  | none => []
  | some t => ("DELETE FROM " ++ sequenceName ++ ";") :: t.insertions

namespace Script

def firstLine : String := "-- Tables, indexes and views"

def ofCatalog (c : Catalog) : String :=
  "\n".intercalate (firstLine :: c.items.flatMap Item.statements ++ c.sequenceStatements ++
    ["PRAGMA user_version = " ++ Decimal.showInt c.version.toInt ++ ";", ""])

def runAll : Nat → Connection → List Token → Except Fault Connection
  | 0, c, _ => .ok c
  | fuel + 1, c, ts =>
    match c.prepareNext ts with
    | .error e => .error e
    | .ok (none, _) => .ok c
    | .ok (some p, rest) =>
      match c.run 0 [] p.instruction with
      | (_, .error e) => .error e
      | (c, .ok _) => runAll fuel c rest

def catalog? (text : String) : Option Catalog :=
  if (Text.after? firstLine.toList text.toList).isNone then none
  else
    let ts := tokensOf text
    let c := { Connection.ofCatalog .empty false with enforced := false }
    match runAll ts.length c ts with
    | .ok c => some c.catalog
    | .error _ => none

end Script
end Tabular.Sql
