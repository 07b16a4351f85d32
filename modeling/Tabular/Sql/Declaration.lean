import Tabular.Sql.Keyword
import Tabular.Sql.Resolution.Query

/-!
# Declared tables, indexes and views

What a definition adds to a catalog: a table with its rules made out of those of
its columns, and the indexes that see to the rules of uniqueness.
-/

set_option autoImplicit false

namespace Tabular.Sql

def Table.site (c : Catalog) (t : Table) : Site :=
  (Site.ofCatalog c).within (.ofRanges [t.range t.name 0])

def Table.resolve (c : Catalog) (t : Table) (term : Words) : Except Fault Typed :=
  term.resolveAlone resolveQuery (t.site c)

def sequenceName : String := "sqlite_sequence"

def standardTypes : List String := ["ANY", "BLOB", "INT", "INTEGER", "REAL", "TEXT"]

def isQuote (c : Char) : Bool := c = '"' || c = '\'' || c = '[' || c = '\x60'

def unquotedType (written : List Char) : List Char :=
  match written with
  | c :: rest =>
    if isQuote c && 2 ≤ rest.length && !rest.dropLast.any isQuote then rest.dropLast else written
  | [] => []

def typeText (written : String) : String :=
  let bare := unquotedType written.toList
  let capital := String.ofList (bare.map Char.toUpper)
  if standardTypes.contains capital then capital else String.ofList bare

def columnAffinity (type : String) : Affinity :=
  if type.isEmpty then .blob else .ofDeclared type

def declaredCollation : List ColumnRule → Except Fault Collation
  | [] => .ok .binary
  | .collate name :: rest => do
    match Collation.ofName? name with
    | none => .error (.noSuchCollation name)
    | some c =>
      let later ← declaredCollation rest
      .ok (if rest.any fun r => match r with | .collate _ => true | _ => false then later else c)
  | _ :: rest => declaredCollation rest

def declaredDefault (rules : List ColumnRule) : Option (Words × String) :=
  (rules.filterMap fun r => match r with
    | .default t span => some (t, span)
    | _ => none).getLast?

def declaredColumn (site : Site) (d : ColumnDefinition) : Except Fault Column := do
  let collation ← declaredCollation d.rules
  let default := declaredDefault d.rules
  match default with
  | some (t, _) =>
    match t.resolveAlone resolveQuery site with
    | .ok _ => .ok ()
    | .error _ => .error (.nonConstantDefault d.name)
  | none => .ok ()
  let required := d.rules.findSome? fun r => match r with
    | .notNull conflict => some (conflict.getD .abort)
    | _ => none
  .ok ⟨d.name, typeText d.type, columnAffinity d.type, collation, required, default, 0⟩

structure Unique where
  terms : List IndexedTerm
  conflict : Option Conflict
  primary : Bool

structure PrimaryKey where
  terms : List IndexedTerm
  descending : Bool
  autoincrement : Bool
  conflict : Option Conflict
  inColumn : Bool

def columnTerm (name : String) : IndexedTerm := ⟨.column none name .other, false⟩

def TableDefinition.primaryKeys (d : TableDefinition) : List PrimaryKey :=
  (d.columns.flatMap fun column => column.rules.filterMap fun r => match r with
    | .primaryKey descending autoincrement conflict =>
      some ⟨[columnTerm column.name], descending, autoincrement, conflict, true⟩
    | _ => none) ++
  d.rules.filterMap fun r => match r with
    | .primaryKey terms autoincrement conflict =>
      some ⟨terms, false, autoincrement, conflict, false⟩
    | _ => none

def TableDefinition.uniques (d : TableDefinition) : List Unique :=
  (d.columns.flatMap fun column => column.rules.filterMap fun r => match r with
    | .primaryKey _ _ conflict => some ⟨[columnTerm column.name], conflict, true⟩
    | .unique conflict => some ⟨[columnTerm column.name], conflict, false⟩
    | _ => none) ++
  d.rules.filterMap fun r => match r with
    | .primaryKey terms _ conflict => some ⟨terms, conflict, true⟩
    | .unique terms conflict => some ⟨terms, conflict, false⟩
    | _ => none

def TableDefinition.checks (d : TableDefinition) : List Check :=
  (d.columns.flatMap fun column => column.rules.filterMap fun r => match r with
    | .check name t span => some ⟨name, t, span⟩
    | _ => none) ++
  d.rules.filterMap fun r => match r with
    | .check name t span => some ⟨name, t, span⟩
    | _ => none

def termColumn? (t : IndexedTerm) : Option String :=
  match withoutCollation t.term with
  | .column none name _ => some name
  | _ => none

def idColumnOf (d : TableDefinition) (key : PrimaryKey) : Option Nat :=
  match key.terms with
  | [t] =>
    match (termColumn? t).bind fun name => d.columns.findIdx? fun c => sameName c.name name with
    | some i =>
      if (d.columns[i]?.map fun c => typeText c.type == "INTEGER").getD false &&
          !(key.inColumn && key.descending) && !d.withoutRowid then some i
      else none
    | none => none
  | _ => none

def declaredForeignKeys (d : TableDefinition) : Except Fault (List ForeignKey) := do
  let own := (d.columns.zipIdx.flatMap fun (column, i) => column.rules.filterMap fun r =>
    match r with
    | .references reference => some (column.name, i, reference)
    | _ => none)
  let first ← own.mapM fun (name, i, reference) =>
    if 1 < reference.columns.length then
      .error (.foreignColumnWidth name reference.table)
    else .ok ⟨[i], reference⟩
  let rest := d.rules.filterMap fun r => match r with
    | .foreignKey columns reference => some (columns, reference)
    | _ => none
  let others ← rest.mapM fun (columns, reference) => do
    if !reference.columns.isEmpty ∧ reference.columns.length ≠ columns.length then
      .error .foreignWidth
    else
      let places ← columns.mapM fun name =>
        match d.columns.findIdx? fun c => sameName c.name name with
        | some i => .ok i
        | none => .error (.unknownForeignColumn name)
      .ok ⟨places, reference⟩
  .ok (first ++ others)

def markKey (columns : List Column) (terms : List IndexedTerm) : List Column :=
  columns.map fun c =>
    match terms.findIdx? fun t => (termColumn? t).any (sameName c.name) with
    | some i => { c with key := i + 1 }
    | none => c

def sameTerms (a b : List IndexedTerm) : Bool :=
  a.length = b.length && (a.zip b).all fun (t, u) =>
    match termColumn? t, termColumn? u with
    | some n, some m => sameName n m
    | _, _ => false

def withoutRepeats : List Unique → List Unique → List Unique
  | done, [] => done
  | done, u :: rest =>
    if done.any fun v => sameTerms v.terms u.terms then withoutRepeats done rest
    else withoutRepeats (done ++ [u]) rest

def declaredIndexes (table : String) (root : Nat) (uniques : List Unique) : List Index :=
  uniques.zipIdx.map fun (u, n) =>
    { name := "sqlite_autoindex_" ++ table ++ "_" ++ Decimal.showNat (n + 1), table, unique := true,
      terms := u.terms, condition := none, conflict := u.conflict,
      origin := if u.primary then .primary else .unique, sql := "", root := root + 1 + n }

def strictColumn (table : String) (idColumn : Bool) (c : Column) : Except Fault Column :=
  if c.type.isEmpty then .error (.missingType table c.name)
  else if !standardTypes.contains c.type then .error (.unknownType table c.name c.type)
  else .ok
    { c with
      affinity := if c.type = "ANY" then .blob else c.affinity
      required := if c.key ≠ 0 && !idColumn then some (c.required.getD .abort) else c.required }

def declared (c : Catalog) (temporary : Bool) (name : String) (d : TableDefinition)
    (sql : String) (root : Nat) : Except Fault (Table × List Index) := do
  let columns ← d.columns.mapM (declaredColumn (Site.ofCatalog c))
  let keys := d.primaryKeys
  if 1 < keys.length then .error (.twoPrimaryKeys name)
  else do
    let key := keys.head?
    let idColumn := key.bind (idColumnOf d)
    let autoincrement := (key.map PrimaryKey.autoincrement).getD false
    if autoincrement ∧ d.withoutRowid then .error .autoincrementWithoutRowid
    else if autoincrement ∧ idColumn.isNone then .error .autoincrementKey
    else if d.withoutRowid ∧ key.isNone then .error (.noPrimaryKey name)
    else do
      let foreignKeys ← declaredForeignKeys d
      let columns := markKey columns ((key.map PrimaryKey.terms).getD [])
      let columns := if d.withoutRowid then
          columns.map fun column =>
            if column.key ≠ 0 then { column with required := some (column.required.getD .abort) }
            else column
        else columns
      let columns ← if d.strict then
          columns.zipIdx.mapM fun (column, i) => strictColumn name (idColumn = some i) column
        else .ok columns
      let t : Table :=
        { name, temporary, sql, root, columns, idColumn, idConflict := key.bind PrimaryKey.conflict,
          autoincrement, withoutRowid := d.withoutRowid, strict := d.strict, checks := d.checks,
          foreignKeys, rows := .empty }
      t.checks.forM fun check => (t.resolve c check.condition).map fun _ => ()
      let uniques := withoutRepeats [] (d.uniques.filter fun u => !(u.primary && idColumn.isSome))
      let indexes := declaredIndexes name root uniques
      indexes.forM fun i => i.terms.forM fun term => (t.resolve c term.term).map fun _ => ()
      .ok (t, indexes)

def isReserved (name : String) : Bool := "sqlite_".toList.isPrefixOf (foldName name)

def mayCreate (c : Catalog) (lenient : Bool) (name : ObjectName) : Except Fault Bool :=
  if !isKnownSchema name.schema then .error (.noSuchDatabase (name.schema.getD ""))
  else if isReserved name.name then .error (.reservedName name.name)
  else
    match c.item? name.name with
    | some (.index _) => .error (.nameTaken .index name.name)
    | some i => if lenient then .ok false else .error (.alreadyExists i.kind name.written)
    | none => .ok true

def sequenceTable (root : Nat) : Table :=
  let column (name : String) : Column := ⟨name, "", .blob, .binary, none, none, 0⟩
  { name := sequenceName, temporary := false, sql := "CREATE TABLE sqlite_sequence(name,seq)",
    root, columns := [column "name", column "seq"], idColumn := none, idConflict := none,
    autoincrement := false, withoutRowid := false, strict := false, checks := [],
    foreignKeys := [], rows := .empty }

def withSequence (c : Catalog) : Catalog :=
  if (c.table? sequenceName).isSome then c else c.add (.table (sequenceTable c.freePage))

def isTemporary (temporary : Bool) (name : ObjectName) : Bool :=
  temporary || (name.schema.map fun s => sameName s "temp").getD false

def createTable (c : Catalog) (temporary lenient : Bool) (name : ObjectName)
    (body : TableDefinition) (written : String) : Except Fault Catalog := do
  if !(← mayCreate c lenient name) then .ok c
  else do
    let (t, indexes) ← declared c (isTemporary temporary name) name.name body
      ("CREATE TABLE " ++ written) c.freePage
    let made := indexes.foldl (fun c i => c.add (.index { i with root := c.freePage }))
      (c.add (.table t))
    .ok (if t.autoincrement then withSequence made else made)

def affinityText : Affinity → String
  | .unset | .blob => ""
  | .text => " TEXT"
  | .numeric => " NUM"
  | .integer => " INT"
  | .real => " REAL"

def madeText (name : String) (headings : List Heading) : String :=
  let size (s : String) : Nat := s.utf8ByteSize + 2 + (s.toList.filter (· = '"')).length
  let long := 50 ≤ total (headings.map fun h => size h.name + 5) + size name
  let columns := headings.map fun h => nameText h.name ++ affinityText h.affinity
  if long then
    nameText name ++ "(\n  " ++ ",\n  ".intercalate columns ++ "\n)"
  else nameText name ++ "(" ++ ",".intercalate columns ++ ")"

def tableOf (c : Catalog) (temporary : Bool) (name : String) (headings : List Heading) : Table :=
  let headings := distinctNames headings
  { name, temporary, sql := "CREATE TABLE " ++ madeText name headings, root := c.freePage,
    columns := headings.map fun h =>
      ⟨h.name, (affinityText h.affinity).trimAscii.toString,
        if h.affinity = .unset then .blob else h.affinity, .binary, none, none, 0⟩,
    idColumn := none, idConflict := none, autoincrement := false, withoutRowid := false,
    strict := false, checks := [], foreignKeys := [], rows := .empty }

def declaredIndex (c : Catalog) (unique lenient : Bool) (name : ObjectName) (table : String)
    (terms : List IndexedTerm) (condition : Option Words) (written : String) :
    Except Fault (Option Index) := do
  if !isKnownSchema name.schema then .error (.noSuchDatabase (name.schema.getD ""))
  else
    match c.table? table with
    | none =>
      if (c.view? table).isSome then .error .viewIndexed
      else .error (.noSuchTable ("main." ++ table))
    | some t =>
      if isReserved t.name then .error (.notAllowed t.name "indexed")
      else if isReserved name.name then .error (.reservedName name.name)
      else
        match c.item? name.name with
        | some (.index _) =>
          if lenient then .ok none else .error (.alreadyExists .index name.name)
        | some _ => .error (.nameTaken .table name.name)
        | none => do
          terms.forM fun term => (t.resolve c term.term).map fun _ => ()
          match condition with
          | some term => (t.resolve c term).map fun _ => ()
          | none => .ok ()
          .ok (some
            { name := name.name, table := t.name, unique, terms, condition, conflict := none,
              origin := .created,
              sql := (if unique then "CREATE UNIQUE INDEX " else "CREATE INDEX ") ++ written,
              root := c.freePage })

def createView (c : Catalog) (temporary lenient : Bool) (name : ObjectName)
    (columns : List String) (q : Query) (written : String) : Except Fault Catalog := do
  if !(← mayCreate c lenient name) then .ok c
  else
    .ok (c.add
      (.view ⟨name.name, isTemporary temporary name, columns, q, "CREATE VIEW " ++ written⟩))

def droppedItem (c : Catalog) (kind : ObjectKind) (lenient : Bool) (name : ObjectName) :
    Except Fault (Option Item) :=
  let absent : Except Fault (Option Item) :=
    if lenient then .ok none else .error (.noSuchObject kind (showName name))
  if !isKnownSchema name.schema then absent
  else if kind = .table ∧ Catalog.isSchemaTable name.name then
    .error (.notAllowed name.name "dropped")
  else
    match kind, c.item? name.name with
    | _, none => absent
    | .index, some (.index i) =>
      if i.origin = .created then .ok (some (.index i)) else .error .constraintIndex
    | .table, some (.table t) =>
      if isReserved t.name then .error (.notAllowed t.name "dropped") else .ok (some (.table t))
    | .view, some (.view v) => .ok (some (.view v))
    | .table, some (.view v) => .error (.wrongDrop .view v.name)
    | .view, some (.table t) => .error (.wrongDrop .table t.name)
    | _, _ => absent

def Catalog.without (c : Catalog) (gone : Item) : Catalog :=
  match gone with
  | .table t =>
    let kept := c.items.filter fun i => match i with
      | .table u => !sameName u.name t.name
      | .index i => !sameName i.table t.name
      | .view _ => true
    let c : Catalog := { c with items := kept }
    match c.table? sequenceName with
    | none => c
    | some sequence =>
      c.setRows sequence.name ⟨sequence.rows.entries.filter fun e =>
        !(e.2.headD .null).same (.text t.name)⟩
  | gone =>
    { c with items := c.items.filter fun i => !(i.kind = gone.kind && sameName i.name gone.name) }

end Tabular.Sql
