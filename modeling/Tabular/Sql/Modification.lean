import Tabular.Sql.Change

/-!
# Statements that change rows

An insertion, an update or a deletion first finds the rows it is about, with the
values they get, and then changes them one after the other.
-/

set_option autoImplicit false

namespace Tabular.Sql

def writableTable (c : Catalog) (name : ObjectName) : Except Fault Table :=
  if !isKnownSchema name.schema then .error (.noSuchTable (showName name))
  else if Catalog.isSchemaTable name.name then .error (.notAllowed name.name "modified")
  else
    match c.table? name.name with
    | some t => .ok t
    | none =>
      match c.view? name.name with
      | some v => .error (.viewModified v.name)
      | none => .error (.noSuchTable (showName name))

def resolveReturning (site : Site) (range : Range) (columns : List (ResultColumn Query)) :
    Except Fault (List Output) :=
  (resolveOutputs resolveQuery (site.within (.ofRanges [range])) [range] columns).alone

def checkReferences (c : Catalog) (t : Table) : Except Fault Unit :=
  t.foreignKeys.forM fun fk => (fk.target c t).map fun _ => ()

def checkReferring (c : Catalog) (t : Table) : Except Fault Unit :=
  (c.referring t.name).forM fun (child, fk) => (fk.target c child).map fun _ => ()

inductive Assigned where
  | cell (index : Nat)
  | id
deriving DecidableEq

def Table.assigned? (t : Table) (name : String) : Option Assigned :=
  match t.columnIndex? name with
  | some i => some (if t.idColumn = some i then .id else .cell i)
  | none => if isRowidName name ∧ !t.withoutRowid then some .id else none

def resolveAssignments (site : Site) (t : Table) :
    List Assignment → Except Fault (List (Assigned × Formula))
  | [] => .ok []
  | (name, term) :: rest => do
    let typed ← term.resolveAlone resolveQuery site
    match t.assigned? name with
    | none => .error (.noSuchColumn name)
    | some a => do
      let others ← resolveAssignments site t rest
      .ok ((a, typed.expr) :: others)

structure Upserting where
  target : List String
  assignments : List (Assigned × Formula)
  condition : Option Formula

structure Inserting where
  table : Table
  conflict : Option Conflict
  places : List (Option Nat)
  idPlace : Option Nat
  plan : Option Plan
  upserts : List Upserting
  returning : List Output

structure Updating where
  table : Table
  conflict : Option Conflict
  targets : List Assigned
  plan : Plan
  returning : List Output

structure Deleting where
  table : Table
  plan : Plan
  returning : List Output

def insertPlaces (t : Table) (columns : List String) :
    Except Fault (List (Option Nat) × Option Nat) :=
  if columns.isEmpty then
    .ok ((List.range t.width).map some, t.idColumn)
  else do
    let targets ← columns.mapM fun name =>
      match t.assigned? name with
      | some a => .ok a
      | none => .error (.tableLacksColumn t.name name)
    let places := (List.range t.width).map fun i => targets.findIdx? fun a => a = .cell i
    let idPlace := (targets.zipIdx.filter fun (a, _) => a = .id).getLast?.map Prod.snd
    .ok (places, idPlace)

def isConflictTarget (c : Catalog) (t : Table) (names : List String) : Bool :=
  match names.mapM t.columnIndex? with
  | none => false
  | some places => ForeignKey.isKey c t places

def resolveUpsert (c : Catalog) (t : Table) (label : String) (u : Upsert) :
    Except Fault Upserting := do
  if !u.target.isEmpty ∧ !isConflictTarget c t u.target then .error .noConflictTarget
  else do
    let own := t.range label 0
    let excluded := t.range "excluded" (t.width + 1)
    let site := (Site.ofCatalog c).within (.ofRanges [own, { excluded with rowid := none }])
    let assignments ← resolveAssignments site t u.assignments
    let condition ← match u.condition with
      | none => .ok none
      | some term => (term.resolveAlone resolveQuery site).map fun typed => some typed.expr
    .ok ⟨u.target, assignments, condition⟩

def resolveInsertion (c : Catalog) (i : Insertion) : Except Fault Inserting := do
  let t ← writableTable c i.table
  let (places, idPlace) ← insertPlaces t i.columns
  let site := Site.ofCatalog c
  let plan ← match i.query with
    | none => .ok none
    | some q => do
      let r ← resolveQuery site q
      let supplied := r.headings.length
      if i.columns.isEmpty then
        if supplied ≠ t.width then .error (.valuesForTable t.name t.width supplied)
        else .ok (some r.plan)
      else if supplied ≠ i.columns.length then
        .error (.valuesForColumns supplied i.columns.length)
      else .ok (some r.plan)
  let label := i.label.getD t.name
  let upserts ← i.upserts.mapM (resolveUpsert c t label)
  checkReferences c t
  let returning ← resolveReturning site (t.range label 0) i.returning
  if i.query.isNone then
    .ok ⟨t, i.conflict, List.replicate t.width none, none, none, upserts, returning⟩
  else .ok ⟨t, i.conflict, places, idPlace, plan, upserts, returning⟩

def selectionOf (sources : List Sourced) (condition : Option Formula) (outputs : List Formula) :
    Plan :=
  .query ⟨outputs.length, outputs.map fun _ => .binary,
    .select (sources.map Sourced.joined) condition none outputs false, [], [], none, none⟩

def idOf (t : Table) : Formula := .place ⟨0, t.width⟩

def ownSource (name : ObjectName) (label : Option String) : Source Query :=
  ⟨.named name, label, .inner, false, none, []⟩

def resolveUpdate (c : Catalog) (commons : List (CommonTable Query)) (u : Update) :
    Except Fault Updating := do
  let t ← writableTable c u.table
  let site := withCommons (Site.ofCatalog c) commons
  let all := ownSource ⟨none, t.name, t.name⟩ (some (u.label.getD t.name)) :: u.sources
  let origins ← resolveOrigins resolveQuery site [] 0 all
  let sourced ← resolveJoins resolveQuery site [] (origins.zip all)
  let inner := site.within (.ofRanges (sourced.map Sourced.range))
  let assignments ← resolveAssignments inner t u.assignments
  let condition ← match u.condition with
    | none => .ok none
    | some term => (term.resolveAlone resolveQuery inner).map fun typed => some typed.expr
  checkReferences c t
  checkReferring c t
  let returning ← resolveReturning site (t.range (u.label.getD t.name) 0) u.returning
  .ok ⟨t, u.conflict, assignments.map Prod.fst,
    selectionOf sourced condition (idOf t :: assignments.map Prod.snd), returning⟩

def resolveDeletion (c : Catalog) (commons : List (CommonTable Query)) (d : Deletion) :
    Except Fault Deleting := do
  let t ← writableTable c d.table
  let site := withCommons (Site.ofCatalog c) commons
  let all := [ownSource ⟨none, t.name, t.name⟩ (some (d.label.getD t.name))]
  let sourced ← resolveOrigins resolveQuery site [] 0 all
  let inner := site.within (.ofRanges (sourced.map Sourced.range))
  let condition ← match d.condition with
    | none => .ok none
    | some term => (term.resolveAlone resolveQuery inner).map fun typed => some typed.expr
  checkReferences c t
  checkReferring c t
  let returning ← resolveReturning site (t.range (d.label.getD t.name) 0) d.returning
  .ok ⟨t, selectionOf sourced condition [idOf t], returning⟩

def returned (s : Scene) (outputs : List Output) (id : Int64) (row : Row) : Attempt Row :=
  Attempt.ofResult (outputs.mapM fun o => s.value (Table.seen id row) o.typed.expr)

abbrev Stepped := Option (Work × Int64 × Row)

def updateRow (s : Scene) (conflict : Option Conflict) (w : Work) (name : String) (id : Int64)
    (assigned : List (Assigned × Value)) : Attempt Stepped := do
  let c := w.catalog
  match c.table? name with
  | none => .ok none
  | some t =>
    match t.rows.get? id with
    | none => .ok none
    | some row => do
      let new ← match (assigned.filter fun a => a.1 = .id).getLast? with
        | none => .ok id
        | some (_, v) => do
          match ← Attempt.ofResult (askedId v) with
          | some new => .ok new
          | none => .error ⟨.mismatch, .abort⟩
      let cells := assigned.foldl (fun (row : Row) (a, v) =>
        match a with
        | .cell i => row.set i v
        | .id => row) row
      match ← judge s conflict c t (some id) new (t.stored new cells) with
      | none => .ok none
      | some (stored, cleared) => do
        let written := writeRow cleared t (some id) new stored
        let followed ← followChange (s.holding written) chainLimit cleared written name row stored
        .ok (some ({ w with catalog := followed, changes := w.changes + 1 }, new, stored))

def rivalOf? (s : Scene) (c : Catalog) (t : Table) (target : List String) (id : Int64)
    (row : Row) : Except Fault (Option Int64) := do
  let concerns (names : List String) : Bool :=
    target.isEmpty || (names.length = target.length && names.all fun n => target.any (sameName n))
  let idName := (t.idColumn.bind fun i => t.columns[i]?).map Column.name
  if concerns idName.toList && idName.isSome && t.rows.contains id then .ok (some id)
  else do
    let named := (c.indexesOf t.name).filter fun i => concerns (i.terms.filterMap fun term =>
      match withoutCollation term.term with
      | .column _ name _ => some name
      | _ => none)
    let rivals ← named.mapM fun i => i.rival? (s.holding c) t id row
    .ok (rivals.findSome? fun r => r)

def upsertFor (s : Scene) (c : Catalog) (t : Table) (id : Int64) (row : Row) :
    List Upserting → Except Fault (Option (Upserting × Int64))
  | [] => .ok none
  | u :: rest => do
    match ← rivalOf? s c t u.target id row with
    | some rival => .ok (some (u, rival))
    | none => upsertFor s c t id row rest

def upsertRow (s : Scene) (ins : Inserting) (w : Work) (u : Upserting) (rival : Int64)
    (new : Row) : Attempt Stepped := do
  match (w.catalog.table? ins.table.name).bind fun t => t.rows.get? rival with
  | none => .ok none
  | some row => do
    let both := Table.seen rival row ++ new
    let met ← match u.condition with
      | none => .ok true
      | some e => (Attempt.ofResult (s.value both e)).map fun v => v.truth = some true
    if u.assignments.isEmpty || !met then .ok none
    else do
      let assigned ← Attempt.ofResult (u.assignments.mapM fun (a, e) => do
        let v ← s.value both e
        .ok (a, v))
      updateRow s none w ins.table.name rival assigned

def newCells (s : Scene) (source : Row) : List Column → List (Option Nat) → Except Fault Row
  | column :: columns, place :: places => do
    let v ← match place with
      | some i => .ok (source[i]?.getD .null)
      | none => column.defaultValue s
    let rest ← newCells s source columns places
    .ok (v :: rest)
  | _, _ => .ok []

def insertRow (s : Scene) (ins : Inserting) (w : Work) (source : Row) : Attempt Stepped := do
  let c := w.catalog
  match c.table? ins.table.name with
  | none => .ok none
  | some t => do
    let asked ← match ins.idPlace with
      | none => .ok none
      | some i => Attempt.ofResult (askedId (source[i]?.getD .null))
    let id ← match asked with
      | some id => .ok id
      | none => Attempt.ofResult (freshId c t)
    let cells ← Attempt.ofResult (newCells (s.holding c) source t.columns ins.places)
    let row := t.stored id cells
    match ← Attempt.ofResult (upsertFor s c t id row ins.upserts) with
    | some (u, rival) => upsertRow (s.holding c) ins w u rival row
    | none => do
      match ← judge s ins.conflict c t none id row with
      | none => .ok none
      | some (stored, cleared) =>
        let written := writeRow cleared t none id stored
        let noted := if t.autoincrement then
            written.setSequence t.name (max id (written.sequence t.name))
          else written
        .ok (some ({ catalog := noted, changes := w.changes + 1, lastId := id }, id, stored))

def deleteRow (s : Scene) (w : Work) (name : String) (id : Int64) : Attempt Stepped := do
  match (w.catalog.table? name).bind fun t => t.rows.get? id with
  | none => .ok none
  | some row => do
    let c ← eraseRow (s.holding w.catalog) chainLimit w.catalog name id
    .ok (some ({ w with catalog := c, changes := w.changes + 1 }, id, row))

structure Progress where
  work : Work
  returned : List Row
  broken : Option Broken

def stepThrough {α : Type} (s : Scene) (outputs : List Output)
    (step : Work → α → Attempt Stepped) : Work → List Row → List α → Progress
  | w, rows, [] => ⟨w, rows.reverse, none⟩
  | w, rows, a :: rest =>
    match step w a with
    | .error b => ⟨w, rows.reverse, some b⟩
    | .ok none => stepThrough s outputs step w rows rest
    | .ok (some (next, id, row)) =>
      match returned (s.holding next.catalog) outputs id row with
      | .error b => ⟨next, rows.reverse, some b⟩
      | .ok values =>
        stepThrough s outputs step next (if outputs.isEmpty then rows else values :: rows) rest

def insertAll (s : Scene) (ins : Inserting) (w : Work) : Except Fault Progress := do
  let rows ← match ins.plan with
    | none => .ok [[]]
    | some p => do
      let found ← p.run s
      found.complete
  .ok (stepThrough s ins.returning (insertRow s ins) w [] rows)

def frontId (row : Row) : Int64 := (row.headD .null).toInt

def firstById (rows : List Row) : List Row := distinctBy (fun a b => frontId a = frontId b) rows

def updateAll (s : Scene) (u : Updating) (w : Work) : Except Fault Progress := do
  let found ← u.plan.run s
  let rows ← found.complete
  .ok (stepThrough s u.returning
    (fun w row => updateRow s u.conflict w u.table.name (frontId row) (u.targets.zip row.tail))
    w [] (firstById rows))

def deleteAll (s : Scene) (d : Deleting) (w : Work) : Except Fault Progress := do
  let found ← d.plan.run s
  let rows ← found.complete
  .ok (stepThrough s d.returning (fun w row => deleteRow s w d.table.name (frontId row)) w [] rows)

end Tabular.Sql
