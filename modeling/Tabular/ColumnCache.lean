import Tabular.Answer
import Tabular.Column
import Tabular.Error
import Tabular.Statement.Basic

/-!
# Types of columns

The types of a table's columns are asked for and, where there is a cache, kept until
the schema changes. Types are kept only if all of them are known.
-/

set_option autoImplicit false

namespace Tabular

structure ColumnCache where
  kept : Option (List (String × ColumnTypes))

namespace ColumnCache

def ofSetting (enabled : Bool) : ColumnCache := ⟨if enabled then some [] else none⟩

def get? (c : ColumnCache) (table : String) : Option ColumnTypes :=
  (c.kept.getD []).find? (fun e => e.1 = table) |>.map Prod.snd

def put (c : ColumnCache) (table : String) (types : ColumnTypes) : ColumnCache :=
  ⟨c.kept.map fun kept => (table, types) :: kept.filter fun e => e.1 ≠ table⟩

def clear (c : ColumnCache) : ColumnCache := ⟨c.kept.map fun _ => []⟩

def question (table : String) : Statement :=
  (Statement.ofText "SELECT name, type FROM pragma_table_info(?) ORDER BY cid").bind table .string

def column (table : String) (row : NamedRow) : Except AccessError (String × ColumnType) :=
  match (Record.get? row "name").bind Cell.text? with
  | none => .error (.schema table "column without a name")
  | some name =>
    .ok (name, .ofDeclared (((Record.get? row "type").bind Cell.text?).getD ""))

def types (table : String) (answer : Except AccessError Answer) :
    Except AccessError ColumnTypes :=
  match answer with
  | .error e => .error (.schema table e.message)
  | .ok a => do
    let columns ← a.rows.mapM (column table)
    if columns.isEmpty then .error (.schema table "no columns found") else .ok ⟨columns⟩

def resolve {σ : Type} (ask : σ → Statement → Except AccessError Answer × σ) (s : σ)
    (c : ColumnCache) (table : String) : Except AccessError ColumnTypes × σ × ColumnCache :=
  match c.get? table with
  | some types => (.ok types, s, c)
  | none =>
    let (answer, s) := ask s (question table)
    match types table answer with
    | .ok types => (.ok types, s, c.put table types)
    | .error e => (.error e, s, c)

end ColumnCache
end Tabular
