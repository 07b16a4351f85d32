import Tabular.Address
import Tabular.ColumnCache
import Tabular.Config.Settings
import Tabular.Statement.Builder
import Tabular.Statement.Definition
import Tabular.Store

/-!
# Databases

The operations on the tables of a database. The latest error of all operations is
kept until it is cleared.
-/

set_option autoImplicit false

namespace Tabular

abbrev Disk := Files Sql.Catalog

structure Database where
  name : Option String
  file : Option Files.Place
  store : Store
  columns : ColumnCache
  lastError : Option ErrorRecord

namespace Database

def cannotOpen : AccessError := .connection (.sql .cannotOpen)

def openFile (disk : Disk) (path : String) (readOnly : Bool) :
    Except AccessError (Files.Place × Sql.Connection × Disk) :=
  let place := disk.placeByText path
  if !disk.admits place then .error cannotOpen
  else
    match disk.at? place with
    | some .folder => .error cannotOpen
    | some (.data catalog) => .ok (place, .ofCatalog catalog readOnly, disk)
    | some (.text content) =>
      let fresh := Sql.Connection.ofCatalog .empty readOnly
      .ok (place, { fresh with damaged := !content.isEmpty }, disk)
    | none =>
      if readOnly then .error cannotOpen
      else .ok (place, .ofCatalog .empty false, disk.put place (.text ""))

def connect (disk : Disk) (settings : Config.Settings) :
    Except AccessError (Database × Disk) := do
  if settings.statementTimeout = 0 then .error (.invalidInput .zeroTimeout)
  else
    let url := Address.withScheme settings.url
    let target ← (Address.target url).mapError fun e => .connection (.address e)
    let database (file : Option Files.Place) (c : Sql.Connection) : Database :=
      { name := Address.name? url, file,
        store := .ofConnection c (1000 * settings.statementTimeout),
        columns := .ofSetting settings.cache.enabled, lastError := none }
    match target.unknownSystem?, target.place with
    | some system, _ => .error (.connection (.sql (.noSuchSystem system)))
    | none, .memory => .ok (database none (.ofCatalog .empty false), disk)
    | none, .file path => do
      let (place, c, disk) ← openFile disk path target.readOnly
      .ok (database (some place) c, disk)

def close (db : Database) (disk : Disk) : Disk :=
  match db.file with
  | none => disk
  | some place =>
    let c := db.store.connection
    if c.damaged ∨ c.readOnly ∨ c.kept.isBlank then
      match disk.at? place with
      | some (.data _) => if c.readOnly then disk else disk.put place (.data c.kept)
      | _ => disk
    else disk.put place (.data c.kept)

abbrev Operation (α : Type) := Database → Except AccessError α × Database

namespace Operation

variable {α β : Type}

instance : Monad Operation where
  pure a := fun db => (.ok a, db)
  bind op f := fun db =>
    match op db with
    | (.ok a, db) => f a db
    | (.error e, db) => (.error e, db)

def lift (r : Except AccessError α) : Operation α := fun db => (r, db)

def tracked (op : Operation α) : Operation α := fun db =>
  match op db with
  | (.error e, db) => (.error e, { db with lastError := some e.record })
  | r => r

def asks (op : Operation α) (db : Database) : Bool :=
  !(op { db with store := { db.store with compiled := [] } }).2.store.compiled.isEmpty

def abortsAt (op : Operation α) (now : Moment) (db : Database) : Bool :=
  (db.store.deadline? now).isNone && op.asks db

def startedAt (op : Operation α) (now : Moment) :
    Database → Option (Except AccessError α × Database) := fun db =>
  if op.abortsAt now db then none else some (op db)

end Operation

open Operation

def execute (s : Statement) : Operation Answer := fun db =>
  let (r, store) := db.store.run s
  (r, { db with store })

def typesOf (table : String) : Operation ColumnTypes := do
  lift (Statement.checkTable table)
  fun db =>
    let (r, store, columns) := db.columns.resolve Store.run db.store table
    (r, { db with store, columns })

def types (table : String) : Operation ColumnTypes := tracked (typesOf table)

def add (table : String) (fields : List Field) : Operation Int64 := tracked do
  let types ← typesOf table
  let s ← lift (Statement.insert table fields types)
  let a ← execute s
  pure a.lastInsertId

def update (table : String) (id : Int64) (fields : List Field) : Operation Nat := tracked do
  let types ← typesOf table
  let s ← lift (Statement.update table id fields types)
  let a ← execute s
  pure a.rowsAffected

def get (table : String) (id : Int64) : Operation Answer := tracked do
  let s ← lift (Statement.selectById table id)
  execute s

def list (table : String) (request : ListRequest) : Operation Answer := tracked do
  let types ← typesOf table
  let s ← lift (Statement.list table request types)
  execute s

def delete (table : String) (id : Int64) : Operation Nat := tracked do
  let s ← lift (Statement.delete table id)
  let a ← execute s
  pure a.rowsAffected

def query (sql : String) : Operation Answer := tracked do
  let a ← execute (.ofText sql)
  fun db =>
    (.ok a, if Definition.definesSchema sql then { db with columns := db.columns.clear } else db)

def hasTable (table : String) : Operation Bool := tracked do
  let a ← execute ((Statement.ofText
    "SELECT name FROM sqlite_master WHERE type='table' AND name=?").bind table .string)
  pure (0 < a.rowCount)

def tables : Operation Answer := tracked (execute (.ofText (
  "SELECT name, type, sql FROM sqlite_master WHERE type='table' AND name NOT LIKE 'sqlite_%' " ++
    "ORDER BY name")))

def clearError : Operation Unit := fun db => (.ok (), { db with lastError := none })

end Database
end Tabular
