import Tabular.Sql.Alteration
import Tabular.Sql.Modification
import Tabular.Sql.Parameter

/-!
# Connections

A connection compiles statements against its catalog and runs them. A statement that
breaks a rule leaves everything as it was before, and a transaction that is rolled
back leaves nothing.
-/

set_option autoImplicit false

namespace Tabular.Sql

structure Transaction where
  base : Catalog
  explicit : Bool
  savepoints : List (String × Catalog)

structure Connection where
  catalog : Catalog
  counters : Counters
  enforced : Bool
  transaction : Option Transaction
  readOnly : Bool
  damaged : Bool

structure Prepared where
  instruction : Instruction
  parameters : Parameters
  columns : List String

namespace Connection

def ofCatalog (catalog : Catalog) (readOnly : Bool) : Connection :=
  ⟨catalog, ⟨0, 0, 0⟩, true, none, readOnly, false⟩

def base (c : Connection) : Catalog :=
  match c.transaction with
  | some t => t.base
  | none => c.catalog

def kept (c : Connection) : Catalog := c.base.lasting

def headingType (h : Heading) : String :=
  if h.type ≠ "" ∧ columnAffinity h.type = h.affinity then h.type
  else
    match h.affinity with
    | .unset => ""
    | .blob => "BLOB"
    | .text => "TEXT"
    | .numeric => "NUM"
    | .integer => "INT"
    | .real => "REAL"

def tableInfo (t : Table) : List Row :=
  t.columns.zipIdx.map fun (c, n) =>
    [.ofNat n, .text c.name, .text c.type, .ofBool c.required.isSome,
      match c.default with | some (_, span) => .text span | none => .null, .ofNat c.key]

def describe (c : Catalog) (name : String) : Except Fault (List Row) :=
  match c.readable? name with
  | some t => .ok (tableInfo t)
  | none =>
    match c.view? name with
    | none => .ok []
    | some v => do
      let r ← resolveView resolveQuery (Site.ofCatalog c) v
      .ok (r.headings.zipIdx.map fun (h, n) =>
        [.ofNat n, .text h.name, .text (headingType h), .ofBool false, .null, .ofNat 0])

def infoColumns : List String := infoHeadings.map Heading.name

def pragmaColumns (name : String) (argument : Option String) : List String :=
  match String.ofList (foldName name), argument with
  | "table_info", _ => infoColumns
  | "foreign_keys", none => ["foreign_keys"]
  | "user_version", none => ["user_version"]
  | "integrity_check", _ => ["integrity_check"]
  | "quick_check", _ => ["quick_check"]
  | "encoding", none => ["encoding"]
  | _, _ => []

def columnsOf (c : Catalog) (i : Instruction) : Except Fault (List String) :=
  let outputNames (os : List Output) : List String := os.map Output.name
  let nothing {α : Type} (r : Except Fault α) : Except Fault (List String) := r.map fun _ => []
  match i with
  | .query q => (resolveQuery (Site.ofCatalog c) q).map fun r => r.headings.map Heading.name
  | .insert i => (resolveInsertion c i).map fun r => outputNames r.returning
  | .update commons u => (resolveUpdate c commons u).map fun r => outputNames r.returning
  | .delete commons d => (resolveDeletion c commons d).map fun r => outputNames r.returning
  | .createTable temporary lenient name body written =>
    nothing (createTable c temporary lenient name body written)
  | .createTableAs _ lenient name q => do
    if ← mayCreate c lenient name then nothing (resolveQuery (Site.ofCatalog c) q) else .ok []
  | .createIndex unique lenient name table terms condition written =>
    nothing (declaredIndex c unique lenient name table terms condition written)
  | .createView temporary lenient name columns q written =>
    nothing (createView c temporary lenient name columns q written)
  | .drop kind lenient name => nothing (droppedItem c kind lenient name)
  | .alter name change => nothing (checkAlteration c name change)
  | .pragma name argument => do
    match String.ofList (foldName name), argument with
    | "table_info", some t => (describe c t).map fun _ => infoColumns
    | _, _ => .ok (pragmaColumns name argument)
  | _ => .ok []

def columnsOfDamaged (i : Instruction) : Except Fault (List String) :=
  match i with
  | .query q =>
    (resolveQuery .unreadable q).map fun r => r.headings.map Heading.name
  | .begin | .commit | .rollback | .savepoint _ | .release _ | .rollbackTo _ => .ok []
  | _ => .error .notADatabase

structure Compiled where
  ready : List Prepared
  rest : List Token

def Compiled.ofText (sql : String) : Compiled := ⟨[], tokensOf sql⟩

def prepareNext (c : Connection) (ts : List Token) :
    Except Fault (Option Prepared × List Token) := do
  let ts := ts.dropWhile fun t => t.is ";"
  let (ts, parameters) ← Parameters.empty.number ts
  match ← Reader.next ts with
  | (none, rest) => .ok (none, rest)
  | (some i, rest) => do
    let columns ← if c.damaged then columnsOfDamaged i else columnsOf c.catalog i
    .ok (some ⟨i, parameters, columns⟩, rest)

def prepareMore (c : Connection) : Nat → Compiled → Compiled × Option Fault
  | 0, done => (done, none)
  | fuel + 1, done =>
    match c.prepareNext done.rest with
    | .error e => (done, some e)
    | .ok (none, rest) => ({ done with rest }, none)
    | .ok (some p, rest) => prepareMore c fuel ⟨done.ready ++ [p], rest⟩

def prepare (c : Connection) (done : Compiled) : Compiled × Option Fault :=
  c.prepareMore (done.rest.length + 1) done

abbrev Outcome := Connection × Except Fault (List Row)

def scene (c : Connection) (parameters : List Value) (patience : Nat) : Scene :=
  ⟨c.catalog, c.counters, parameters, [], [], describe c.catalog, patience⟩

def rolledBack (c : Connection) : Connection :=
  { c with catalog := c.base, transaction := none }

def failed (c : Connection) (e : Fault) : Outcome :=
  match e with
  | .interrupted | .full => (c.rolledBack, .error e)
  | e => (c, .error e)

def referencesKept (c : Connection) (after : Catalog) : Bool :=
  !c.enforced ||
    (after.violations false ≤ c.catalog.violations false &&
      (c.transaction.isSome || after.violations true ≤ c.catalog.violations true))

def settled (c : Connection) (p : Progress) : Outcome :=
  let counted (changes : Nat) : Counters :=
    { changes, totalChanges := c.counters.totalChanges + changes, lastId := p.work.lastId }
  match p.broken with
  | none =>
    if c.referencesKept p.work.catalog then
      ({ c with catalog := p.work.catalog, counters := counted p.work.changes }, .ok p.returned)
    else ({ c with counters := counted 0 }, .error .foreignKey)
  | some ⟨fault, conflict⟩ =>
    match conflict with
    | .fail =>
      ({ c with catalog := p.work.catalog, counters := counted p.work.changes }, .error fault)
    | .rollback => ({ c.rolledBack with counters := counted 0 }, .error fault)
    | _ => failed { c with counters := counted 0 } fault

def changed (c : Connection) (r : Except Fault Progress) : Outcome :=
  match r with
  | .ok p => c.settled p
  | .error e => failed { c with counters := { c.counters with changes := 0 } } e

def work (c : Connection) : Work := ⟨c.catalog, 0, c.counters.lastId⟩

def defined (c : Connection) (r : Except Fault Catalog) : Outcome :=
  match r with
  | .ok catalog => ({ c with catalog }, .ok [])
  | .error e => c.failed e

def createTableAs (c : Catalog) (s : Scene) (temporary lenient : Bool) (name : ObjectName)
    (q : Query) : Except Fault Catalog := do
  if !(← mayCreate c lenient name) then .ok c
  else do
    let r ← resolveQuery (Site.ofCatalog c) q
    let t := tableOf c (isTemporary temporary name) name.name r.headings
    let rows ← (← r.plan.run s).complete
    let entries := rows.zipIdx.map fun (row, n) =>
      let id := Int64.ofNat (n + 1)
      (id, t.stored id row)
    .ok (c.add (.table { t with rows := ⟨entries⟩ }))

def createIndex (c : Catalog) (s : Scene) (unique lenient : Bool) (name : ObjectName)
    (table : String) (terms : List IndexedTerm) (condition : Option Words) (written : String) :
    Except Fault Catalog := do
  match ← declaredIndex c unique lenient name table terms condition written with
  | none => .ok c
  | some i =>
    match c.table? i.table with
    | none => .ok c
    | some t => do
      let rivals ← t.rows.entries.mapM fun e => i.rival? s t e.1 e.2
      if rivals.all Option.isNone then .ok (c.add (.index i)) else .error (i.fault t)

def dropItem (c : Connection) (s : Scene) (kind : ObjectKind) (lenient : Bool)
    (name : ObjectName) : Except Fault Catalog := do
  match ← droppedItem c.catalog kind lenient name with
  | none => .ok c.catalog
  | some (.table t) =>
    if c.enforced && !(c.catalog.referring t.name).isEmpty then do
      let emptied ← (t.rows.entries.foldlM (fun catalog e =>
        eraseRow (s.holding catalog) chainLimit catalog t.name e.1) c.catalog).mapError Broken.fault
      if c.referencesKept emptied then .ok (emptied.without (.table t)) else .error .foreignKey
    else .ok (c.catalog.without (.table t))
  | some item => .ok (c.catalog.without item)

def commit (c : Connection) : Outcome :=
  match c.transaction with
  | none => (c, .error (.noTransaction "commit"))
  | some t =>
    if c.enforced && t.base.violations true < c.catalog.violations true then
      (c, .error .foreignKey)
    else ({ c with transaction := none }, .ok [])

def begin (c : Connection) : Outcome :=
  if c.transaction.isSome then (c, .error .nestedTransaction)
  else ({ c with transaction := some ⟨c.catalog, true, []⟩ }, .ok [])

def rollback (c : Connection) : Outcome :=
  if c.transaction.isSome then (c.rolledBack, .ok [])
  else (c, .error (.noTransaction "rollback"))

def savepoint (c : Connection) (name : String) : Outcome :=
  let t := c.transaction.getD ⟨c.catalog, false, []⟩
  ({ c with transaction := some { t with savepoints := (name, c.catalog) :: t.savepoints } },
    .ok [])

def fromSavepoint (name : String) (savepoints : List (String × Catalog)) :
    List (String × Catalog) := savepoints.dropWhile fun p => !sameName p.1 name

def release (c : Connection) (name : String) : Outcome :=
  match c.transaction with
  | none => (c, .error (.noSuchSavepoint name))
  | some t =>
    match fromSavepoint name t.savepoints with
    | [] => (c, .error (.noSuchSavepoint name))
    | _ :: rest =>
      if rest.isEmpty && !t.explicit then c.commit
      else ({ c with transaction := some { t with savepoints := rest } }, .ok [])

def rollbackTo (c : Connection) (name : String) : Outcome :=
  match c.transaction with
  | none => (c, .error (.noSuchSavepoint name))
  | some t =>
    match fromSavepoint name t.savepoints with
    | [] => (c, .error (.noSuchSavepoint name))
    | (n, catalog) :: rest =>
      ({ c with
        catalog
        transaction := some { t with savepoints := (n, catalog) :: rest } }, .ok [])

def isOn (word : String) : Bool :=
  ["on", "true", "yes"].contains (String.ofList (foldName word)) ||
    (Decimal.word64? word.toList).any fun i => i ≠ 0

def versionOf (word : String) : Int64 :=
  match Decimal.word64? word.toList with
  | some i => if -2147483648 ≤ i ∧ i ≤ 2147483647 then i else 0
  | none => 0

def pragma (c : Connection) (name : String) (argument : Option String) : Outcome :=
  match String.ofList (foldName name), argument with
  | "table_info", some t => (c, describe c.catalog t)
  | "foreign_keys", none => (c, .ok [[.ofBool c.enforced]])
  | "foreign_keys", some word =>
    (if c.transaction.isSome then c else { c with enforced := isOn word }, .ok [])
  | "user_version", none => (c, .ok [[.int c.catalog.version]])
  | "user_version", some word =>
    if c.readOnly then (c, .error .readOnly)
    else ({ c with catalog := { c.catalog with version := versionOf word } }, .ok [])
  | "integrity_check", _ | "quick_check", _ => (c, .ok [[.text "ok"]])
  | "encoding", none => (c, .ok [[.text "UTF-8"]])
  | _, _ => (c, .ok [])

def writes : Instruction → Bool
  | .query _ | .begin | .commit | .rollback | .savepoint _ | .release _ | .rollbackTo _
  | .pragma .. => false
  | _ => true

def run (c : Connection) (patience : Nat) (parameters : List Value) (i : Instruction) : Outcome :=
  let s := c.scene parameters patience
  let catalog := c.catalog
  if c.readOnly && writes i then (c, .error .readOnly)
  else
    match i with
    | .query q =>
      match (do
        let r ← resolveQuery (Site.ofCatalog catalog) q
        let found ← r.plan.run s
        found.complete : Except Fault (List Row)) with
      | .ok rows => (c, .ok rows)
      | .error e => (c, .error e)
    | .insert i => c.changed ((resolveInsertion catalog i).bind fun r => insertAll s r c.work)
    | .update commons u =>
      c.changed ((resolveUpdate catalog commons u).bind fun r => updateAll s r c.work)
    | .delete commons d =>
      c.changed ((resolveDeletion catalog commons d).bind fun r => deleteAll s r c.work)
    | .createTable temporary lenient name body written =>
      c.defined (Sql.createTable catalog temporary lenient name body written)
    | .createTableAs temporary lenient name q =>
      c.defined (createTableAs catalog s temporary lenient name q)
    | .createIndex unique lenient name table terms condition written =>
      c.defined (createIndex catalog s unique lenient name table terms condition written)
    | .createView temporary lenient name columns q written =>
      c.defined (Sql.createView catalog temporary lenient name columns q written)
    | .drop kind lenient name => c.defined (c.dropItem s kind lenient name)
    | .alter name change => c.defined (Sql.alter s catalog name change)
    | .begin => c.begin
    | .commit => c.commit
    | .rollback => c.rollback
    | .savepoint name => c.savepoint name
    | .release name => c.release name
    | .rollbackTo name => c.rollbackTo name
    | .pragma name argument => c.pragma name argument
    | .maintain => (c, .ok [])
    | .vacuum =>
      if c.transaction.isSome then (c, .error .vacuumInTransaction) else (c, .ok [])

end Connection
end Tabular.Sql
