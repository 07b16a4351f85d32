import Tabular.Sql.Declaration
import Tabular.Sql.Enumeration

/-!
# Changing rows

A row is written only if it breaks no rule of its table. What breaks one stops the
statement, is left out, or takes the place of what is in its way.
-/

set_option autoImplicit false

namespace Tabular.Sql

structure Broken where
  fault : Fault
  conflict : Conflict

abbrev Attempt (α : Type) := Except Broken α

namespace Attempt

def ofResult {α : Type} (r : Except Fault α) : Attempt α :=
  match r with
  | .ok a => .ok a
  | .error e => .error ⟨e, .abort⟩

end Attempt

structure Work where
  catalog : Catalog
  changes : Nat
  lastId : Int64

def Scene.holding (s : Scene) (c : Catalog) : Scene := { s with catalog := c }

def Scene.value (s : Scene) (row : Row) (e : Formula) : Except Fault Value :=
  Expr.eval Plan.run (s.within row) e

def constantValue (s : Scene) (term : Words) : Except Fault Value := do
  let t ← term.resolveAlone resolveQuery (Site.ofCatalog s.catalog)
  s.value [] t.expr

def Column.defaultValue (s : Scene) (c : Column) : Except Fault Value :=
  match c.default with
  | none => .ok .null
  | some (term, _) => constantValue s term

namespace Index

def keys (i : Index) (c : Catalog) (t : Table) : Except Fault (List (Collation × Formula)) :=
  i.terms.mapM fun term => do
    let typed ← t.resolve c term.term
    .ok (typed.collationOrBinary, typed.expr)

def holds (i : Index) (s : Scene) (t : Table) (row : Row) : Except Fault Bool :=
  match i.condition with
  | none => .ok true
  | some term => do
    let typed ← t.resolve s.catalog term
    let v ← s.value row typed.expr
    .ok (v.truth = some true)

def description (i : Index) (t : Table) : List String :=
  let names := i.terms.map fun term => match withoutCollation term.term with
    | .column _ name _ => (t.column? name).map fun c => t.name ++ "." ++ c.name
    | _ => none
  if names.all Option.isSome then names.filterMap id else ["index '" ++ i.name ++ "'"]

def fault (i : Index) (t : Table) : Fault :=
  .unique (i.description t) (if i.origin = .primary then .primary else .other)

def rival? (i : Index) (s : Scene) (t : Table) (id : Int64) (row : Row) :
    Except Fault (Option Int64) := do
  if !i.unique then .ok none
  else if !(← i.holds s t (Table.seen id row)) then .ok none
  else do
    let keys ← i.keys s.catalog t
    let keyOf (id : Int64) (row : Row) : Except Fault Row :=
      (keys.map Prod.snd).mapM (s.value (Table.seen id row))
    let key ← keyOf id row
    if key.any Value.isNull then .ok none
    else do
      let others ← keep (fun (e : Int64 × Row) => do
        if e.1 = id then .ok false
        else if !(← i.holds s t (Table.seen e.1 e.2)) then .ok false
        else do
          let other ← keyOf e.1 e.2
          .ok (sameRow (keys.map Prod.fst) key other)) t.rows.entries
      .ok (others.head?.map Prod.fst)

end Index

namespace ForeignKey

def parentColumns (fk : ForeignKey) (parent : Table) : Option (List Nat) :=
  if fk.reference.columns.isEmpty then
    match parent.idColumn with
    | some i => some [i]
    | none =>
      let places := parent.keyColumns.map Prod.snd
      if places.length = fk.columns.length then some places else none
  else fk.reference.columns.mapM parent.columnIndex?

def isKey (c : Catalog) (parent : Table) (places : List Nat) : Bool :=
  (match places with
    | [i] => parent.idColumn = some i
    | _ => false) ||
  (c.indexesOf parent.name).any fun i =>
    i.unique && i.condition.isNone && i.terms.length = places.length &&
      i.terms.all fun term => match term.term with
        | .column _ name _ => ((parent.columnIndex? name).map places.contains).getD false
        | _ => false

def target (fk : ForeignKey) (c : Catalog) (child : Table) :
    Except Fault (Table × List Nat) :=
  match c.table? fk.reference.table with
  | none => .error (.noSuchTable ("main." ++ fk.reference.table))
  | some parent =>
    match fk.parentColumns parent with
    | none => .error (.foreignKeyMismatch child.name parent.name)
    | some places =>
      if isKey c parent places then .ok (parent, places)
      else .error (.foreignKeyMismatch child.name parent.name)

def cells (places : List Nat) (row : Row) : Row := places.map fun i => row[i]?.getD .null

def refersTo (fk : ForeignKey) (parent : Table) (places : List Nat) (row values : Row) : Bool :=
  let own := cells fk.columns row
  !own.any Value.isNull &&
    ((places.zip (own.zip values)).all fun (i, v, w) =>
      match parent.columns[i]? with
      | some column => Value.compare column.collation (column.affinity.store v) w = .eq
      | none => false)

def violations (c : Catalog) (child : Table) (fk : ForeignKey) : Nat :=
  match fk.target c child with
  | .error _ =>
    (child.rows.entries.filter fun e => !(cells fk.columns e.2).any Value.isNull).length
  | .ok (parent, places) =>
    (child.rows.entries.filter fun e =>
      !(cells fk.columns e.2).any Value.isNull &&
        !parent.rows.entries.any fun p => fk.refersTo parent places e.2 (cells places p.2)).length

end ForeignKey

def Catalog.violations (c : Catalog) (deferred : Bool) : Nat :=
  total (c.tables.map fun t =>
    total ((t.foreignKeys.filter fun fk => fk.reference.deferred = deferred).map
      (ForeignKey.violations c t)))

def Catalog.referring (c : Catalog) (name : String) : List (Table × ForeignKey) :=
  c.tables.flatMap fun t =>
    (t.foreignKeys.filter fun fk => sameName fk.reference.table name).map fun fk => (t, fk)

def referringRows (c : Catalog) (child : Table) (fk : ForeignKey) (row : Row) :
    List (Int64 × Row) :=
  match fk.target c child with
  | .error _ => []
  | .ok (parent, places) =>
    child.rows.entries.filter fun e => fk.refersTo parent places e.2 (ForeignKey.cells places row)

def withCells (row : Row) (places : List Nat) (values : Row) : Row :=
  (places.zip values).foldl (fun row (i, v) => row.set i v) row

mutual

def eraseRow (s : Scene) : Nat → Catalog → String → Int64 → Attempt Catalog
  | 0, _, _, _ => .error ⟨.tooDeep, .abort⟩
  | depth + 1, c, name, id =>
    match c.table? name with
    | none => .ok c
    | some t =>
      match t.rows.get? id with
      | none => .ok c
      | some row =>
        let after := c.setRows name (t.rows.erase id)
        (c.referring name).foldlM (fun after (child, fk) =>
          let hits := (referringRows c child fk row).filter fun e =>
            !(sameName child.name name && e.1 = id)
          if hits.isEmpty then .ok after
          else
            match fk.reference.onDelete with
            | .noAction => .ok after
            | .restrict => .error ⟨.foreignKey, .abort⟩
            | .cascade => hits.foldlM (fun c e => eraseRow s depth c child.name e.1) after
            | .setNull => hits.foldlM (fun c e =>
                replaceCells s depth c child.name e.1 fk.columns
                  (fk.columns.map fun _ => .null)) after
            | .setDefault => do
              let values ← Attempt.ofResult (fk.columns.mapM fun i =>
                match child.columns[i]? with
                | some column => column.defaultValue s
                | none => .ok .null)
              hits.foldlM
                (fun c e => replaceCells s depth c child.name e.1 fk.columns values) after)
          after

def replaceCells (s : Scene) :
    Nat → Catalog → String → Int64 → List Nat → Row → Attempt Catalog
  | 0, _, _, _, _, _ => .error ⟨.tooDeep, .abort⟩
  | depth + 1, c, name, id, places, values =>
    match c.table? name with
    | none => .ok c
    | some t =>
      match t.rows.get? id with
      | none => .ok c
      | some row =>
        let new := withCells row places values
        match t.columns.zip new |>.find? fun (column, v) => column.required.isSome && v.isNull with
        | some (column, _) => .error ⟨.notNull t.name column.name, .abort⟩
        | none => followChange s depth c (c.setRows name (t.rows.set id new)) name row new

def followChange (s : Scene) :
    Nat → Catalog → Catalog → String → Row → Row → Attempt Catalog
  | 0, _, _, _, _, _ => .error ⟨.tooDeep, .abort⟩
  | depth + 1, before, after, name, row, new =>
    (before.referring name).foldlM (fun after (child, fk) =>
      match fk.target before child with
      | .error _ => .ok after
      | .ok (_, places) =>
        let old := ForeignKey.cells places row
        let now := ForeignKey.cells places new
        if sameRow (places.map fun _ => .binary) old now then .ok after
        else
          let hits := referringRows before child fk row
          if hits.isEmpty then .ok after
          else
            match fk.reference.onUpdate with
            | .noAction => .ok after
            | .restrict => .error ⟨.foreignKey, .abort⟩
            | .cascade => hits.foldlM (fun c e =>
                replaceCells s depth c child.name e.1 fk.columns now) after
            | .setNull => hits.foldlM (fun c e =>
                replaceCells s depth c child.name e.1 fk.columns
                  (fk.columns.map fun _ => .null)) after
            | .setDefault => do
              let values ← Attempt.ofResult (fk.columns.mapM fun i =>
                match child.columns[i]? with
                | some column => column.defaultValue s
                | none => .ok .null)
              hits.foldlM
                (fun c e => replaceCells s depth c child.name e.1 fk.columns values) after)
      after

end

def chainLimit : Nat := 1000

def inForce (statement rule : Option Conflict) : Conflict := (statement <|> rule).getD .abort

def requireCells (s : Scene) (statement : Option Conflict) (t : Table) :
    List Column → Row → Attempt (Option Row)
  | [], _ => .ok (some [])
  | column :: columns, row => do
    let v := row.headD .null
    let kept (v : Value) : Attempt (Option Row) := do
      let rest ← requireCells s statement t columns row.tail
      .ok (rest.map (v :: ·))
    let refused (conflict : Conflict) : Attempt (Option Row) :=
      .error ⟨.notNull t.name column.name, conflict⟩
    match column.required with
    | none => kept v
    | some rule =>
      if !v.isNull then kept v
      else
        match inForce statement (some rule) with
        | .ignore => .ok none
        | .replace => do
          let d ← Attempt.ofResult (column.defaultValue s)
          if d.isNull then refused .abort else kept (column.affinity.store d)
        | conflict => refused conflict

def isOfType (v : Value) (type : String) : Bool :=
  match v with
  | .null => true
  | .int _ => type = "INT" || type = "INTEGER" || type = "REAL" || type = "ANY"
  | .real _ => type = "REAL" || type = "ANY"
  | .text _ | .rawText _ => type = "TEXT" || type = "ANY"
  | .blob _ => type = "BLOB" || type = "ANY"

def kindName : Value → String
  | .null => "NULL"
  | .int _ => "INT"
  | .real _ => "REAL"
  | .text _ | .rawText _ => "TEXT"
  | .blob _ => "BLOB"

def requireTypes (t : Table) (row : Row) : Attempt Unit :=
  match (t.columns.zip row).find? fun (column, v) => !isOfType v column.type with
  | some (column, v) =>
    if t.strict then .error ⟨.wrongType (kindName v) column.type t.name column.name, .abort⟩
    else .ok ()
  | none => .ok ()

def meetsChecks (s : Scene) (statement : Option Conflict) (t : Table) (row : Row) :
    List Check → Attempt Bool
  | [] => .ok true
  | check :: rest => do
    let typed ← Attempt.ofResult (t.resolve s.catalog check.condition)
    let v ← Attempt.ofResult (s.value row typed.expr)
    if v.truth = some false then
      match inForce statement none with
      | .ignore => .ok false
      | .replace => .error ⟨.check (check.name.getD check.span), .abort⟩
      | conflict => .error ⟨.check (check.name.getD check.span), conflict⟩
    else meetsChecks s statement t row rest

def clearWay (s : Scene) (name : String) (fault : Fault) (conflict : Conflict) (c : Catalog) :
    Option Int64 → Attempt (Option Catalog)
  | none => .ok (some c)
  | some rival =>
    match conflict with
    | .ignore => .ok none
    | .replace => (eraseRow (s.holding c) chainLimit c name rival).map some
    | conflict => .error ⟨fault, conflict⟩

def clearIndexes (s : Scene) (statement : Option Conflict) (name : String) (id : Int64)
    (row : Row) : List Index → Catalog → Attempt (Option Catalog)
  | [], c => .ok (some c)
  | i :: rest, c =>
    match c.table? name with
    | none => .ok none
    | some t => do
      let rival ← Attempt.ofResult (i.rival? (s.holding c) t id row)
      match ← clearWay s name (i.fault t) (inForce statement i.conflict) c rival with
      | none => .ok none
      | some c => clearIndexes s statement name id row rest c

def Table.idFault (t : Table) : Fault :=
  match t.idColumn.bind fun i => t.columns[i]? with
  | some column => .unique [t.name ++ "." ++ column.name] .primary
  | none => .unique [t.name ++ ".rowid"] .rowid

/-- A row as it would be stored, with the way cleared for it; none if it is left out.
`old` is the number it had, if it was there before. -/
def judge (s : Scene) (statement : Option Conflict) (c : Catalog) (t : Table)
    (old : Option Int64) (id : Int64) (row : Row) : Attempt (Option (Row × Catalog)) := do
  match ← requireCells (s.holding c) statement t t.columns row with
  | none => .ok none
  | some row =>
    requireTypes t row
    if !(← meetsChecks (s.holding c) statement t (Table.seen id row) t.checks) then .ok none
    else
      let rival := if old ≠ some id && t.rows.contains id then some id else none
      match ← clearWay s t.name t.idFault (inForce statement t.idConflict) c rival with
      | none => .ok none
      | some c => do
        let without := match old with
          | some o => ((c.table? t.name).map fun t => c.setRows t.name (t.rows.erase o)).getD c
          | none => c
        match ← clearIndexes s statement t.name id row (c.indexesOf t.name) without with
        | none => .ok none
        | some c => .ok (some (row, c))

def Catalog.sequence (c : Catalog) (name : String) : Int64 :=
  match c.table? sequenceName with
  | none => 0
  | some t =>
    match t.rows.entries.find? fun e => (e.2.headD .null).same (.text name) with
    | some (_, row) => ((row.drop 1).headD .null).toInt
    | none => 0

def Catalog.setSequence (c : Catalog) (name : String) (id : Int64) : Catalog :=
  match c.table? sequenceName with
  | none => c
  | some t =>
    let row : Row := [.text name, .int id]
    match t.rows.entries.find? fun e => (e.2.headD .null).same (.text name) with
    | some (place, _) => c.setRows sequenceName (t.rows.set place row)
    | none => c.setRows sequenceName (t.rows.set (t.rows.last?.getD 0 + 1) row)

def freshId (c : Catalog) (t : Table) : Except Fault Int64 :=
  let noted := if t.autoincrement then c.sequence t.name else 0
  match t.rows.last? with
  | none => if noted = Int64.maxValue then .error .full else .ok (max 0 noted + 1)
  | some last =>
    if last ≠ Int64.maxValue ∧ !t.autoincrement then .ok (last + 1)
    else if t.autoincrement then
      if last = Int64.maxValue ∨ noted = Int64.maxValue then .error .full
      else .ok (max last noted + 1)
    else
      match (List.range (t.rows.size + 1)).find? fun n => !t.rows.contains (.ofNat (n + 1)) with
      | some n => .ok (.ofNat (n + 1))
      | none => .error .full

def askedId (v : Value) : Except Fault (Option Int64) :=
  match v with
  | .null => .ok none
  | v =>
    match Affinity.store .integer v with
    | .int i => .ok (some i)
    | _ => .error .mismatch

def Table.stored (t : Table) (id : Int64) (row : Row) : Row :=
  ((t.columns.zip row).zipIdx).map fun ((column, v), n) =>
    if t.idColumn = some n then .int id else column.affinity.store v

def writeRow (c : Catalog) (t : Table) (old : Option Int64) (id : Int64) (row : Row) : Catalog :=
  match c.table? t.name with
  | none => c
  | some t =>
    let rows := match old with
      | some o => t.rows.erase o
      | none => t.rows
    c.setRows t.name (rows.set id row)

end Tabular.Sql
