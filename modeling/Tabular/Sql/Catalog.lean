import Tabular.Sql.Number
import Tabular.Sql.Phrase
import Tabular.Sql.Rows

/-!
# Catalogs

A catalog holds tables with their rows, indexes and views, in the order in which
they were made. Names are the same if they differ in the case of ASCII letters only.
-/

set_option autoImplicit false

namespace Tabular.Sql

def foldName (name : String) : List Char := name.toList.map Char.toLower

def sameName (a b : String) : Bool := foldName a = foldName b

structure Column where
  name : String
  type : String
  affinity : Affinity
  collation : Collation
  required : Option Conflict
  default : Option (Words × String)
  /-- The place in the primary key from one on, or 0 outside of it. -/
  key : Nat

structure Check where
  name : Option String
  condition : Words
  span : String

structure ForeignKey where
  columns : List Nat
  reference : Reference

structure Table where
  name : String
  temporary : Bool
  sql : String
  root : Nat
  columns : List Column
  idColumn : Option Nat
  idConflict : Option Conflict
  autoincrement : Bool
  withoutRowid : Bool
  strict : Bool
  checks : List Check
  foreignKeys : List ForeignKey
  rows : Rows

namespace Table

def columnIndex? (t : Table) (name : String) : Option Nat :=
  t.columns.findIdx? fun c => sameName c.name name

def column? (t : Table) (name : String) : Option Column :=
  t.columns.find? fun c => sameName c.name name

def width (t : Table) : Nat := t.columns.length

def keyColumns (t : Table) : List (Column × Nat) :=
  (t.columns.zipIdx.filter fun (c, _) => c.key ≠ 0).mergeSort fun a b => a.1.key ≤ b.1.key

def compareKeys (t : Table) (a b : Row) : Ordering :=
  (t.keyColumns.map fun (c, i) =>
    Value.compare c.collation (a[i]?.getD .null) (b[i]?.getD .null)).foldl Ordering.then .eq

def ordered (t : Table) : List (Int64 × Row) :=
  if t.withoutRowid then t.rows.entries.mergeSort fun a b => t.compareKeys a.2 b.2 ≠ .gt
  else t.rows.entries

def seen (id : Int64) (row : Row) : Row := row ++ [.int id]

end Table

inductive IndexOrigin where
  | created
  | unique
  | primary
deriving DecidableEq

structure Index where
  name : String
  table : String
  unique : Bool
  terms : List IndexedTerm
  condition : Option Words
  conflict : Option Conflict
  origin : IndexOrigin
  sql : String
  root : Nat

structure View where
  name : String
  temporary : Bool
  columns : List String
  query : Query
  sql : String

inductive Item where
  | table (t : Table)
  | index (i : Index)
  | view (v : View)

namespace Item

def name : Item → String
  | .table t => t.name
  | .index i => i.name
  | .view v => v.name

def kind : Item → ObjectKind
  | .table _ => .table
  | .index _ => .index
  | .view _ => .view

def table? : Item → Option Table
  | .table t => some t
  | _ => none

def index? : Item → Option Index
  | .index i => some i
  | _ => none

def view? : Item → Option View
  | .view v => some v
  | _ => none

def root : Item → Nat
  | .table t => t.root
  | .index i => i.root
  | .view _ => 0

def temporary : Item → Bool
  | .table t => t.temporary
  | .view v => v.temporary
  | .index _ => false

end Item

structure Catalog where
  items : List Item
  version : Int64

namespace Catalog

def empty : Catalog := ⟨[], 0⟩

def isBlank (c : Catalog) : Bool := c.items.isEmpty && c.version = 0

def tables (c : Catalog) : List Table := c.items.filterMap Item.table?

def indexes (c : Catalog) : List Index := c.items.filterMap Item.index?

def table? (c : Catalog) (name : String) : Option Table :=
  c.tables.find? fun t => sameName t.name name

def view? (c : Catalog) (name : String) : Option View :=
  (c.items.filterMap Item.view?).find? fun v => sameName v.name name

def index? (c : Catalog) (name : String) : Option Index :=
  c.indexes.find? fun i => sameName i.name name

def item? (c : Catalog) (name : String) : Option Item :=
  c.items.find? fun i => sameName i.name name

def indexesOf (c : Catalog) (table : String) : List Index :=
  let all := (c.indexes.filter fun i => sameName i.table table).reverse
  all.filter (fun i => i.conflict ≠ some .replace) ++ all.filter fun i => i.conflict = some .replace

def add (c : Catalog) (i : Item) : Catalog := { c with items := c.items ++ [i] }

def setTable (c : Catalog) (t : Table) : Catalog :=
  { c with items := c.items.map fun i => match i with
    | .table u => if sameName u.name t.name then .table t else i
    | _ => i }

def setRows (c : Catalog) (name : String) (rows : Rows) : Catalog :=
  { c with items := c.items.map fun i => match i with
    | .table u => if sameName u.name name then .table { u with rows } else i
    | _ => i }

def lasting (c : Catalog) : Catalog :=
  let isGone (name : String) : Bool := ((c.table? name).map Table.temporary).getD false
  { c with items := c.items.filter fun i => match i with
    | .index i => !isGone i.table
    | i => !i.temporary }

def freePage (c : Catalog) : Nat :=
  let taken := c.items.map Item.root
  ((List.range (taken.length + 1)).find? fun n => !taken.contains (n + 2)).getD 0 + 2

def schemaTableNames : List String :=
  ["sqlite_master", "sqlite_schema", "sqlite_temp_master", "sqlite_temp_schema"]

def isSchemaTable (name : String) : Bool := schemaTableNames.any fun s => sameName s name

def schemaColumns : List Column :=
  let column (name type : String) : Column :=
    ⟨name, type, .ofDeclared type, .binary, none, none, 0⟩
  [column "type" "TEXT", column "name" "TEXT", column "tbl_name" "TEXT", column "rootpage" "INT",
    column "sql" "TEXT"]

def schemaRow : Item → Row
  | .table t =>
    [.text "table", .text t.name, .text t.name, .ofNat t.root, .text t.sql]
  | .index i =>
    [.text "index", .text i.name, .text i.table, .ofNat i.root,
      if i.origin = .created then .text i.sql else .null]
  | .view v => [.text "view", .text v.name, .text v.name, .ofNat 0, .text v.sql]

def schemaTable (c : Catalog) (name : String) : Table :=
  let temporary := sameName name "sqlite_temp_master" || sameName name "sqlite_temp_schema"
  let rows := (c.items.filter fun i => i.temporary = temporary).map schemaRow
  { name, temporary, sql := "", root := 1, columns := schemaColumns, idColumn := none,
    idConflict := none, autoincrement := false, withoutRowid := false, strict := false,
    checks := [], foreignKeys := [],
    rows := ⟨(List.range rows.length).zipWith (fun n row => (Int64.ofNat (n + 1), row)) rows⟩ }

def readable? (c : Catalog) (name : String) : Option Table :=
  if isSchemaTable name then some (c.schemaTable name) else c.table? name

end Catalog
end Tabular.Sql
