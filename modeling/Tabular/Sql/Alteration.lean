import Tabular.Sql.Change
import Tabular.Sql.Reader.Instruction

/-!
# Altered tables

A change of a table is made in the text of its definition, which is then read again.
The rows follow.
-/

set_option autoImplicit false

namespace Tabular.Sql

def tokensText (ts : List Token) : String :=
  String.ofList (ts.flatMap fun t => t.lead ++ t.raw)

structure Body where
  head : List Token
  parts : List (List Token)
  tail : List Token

namespace Body

def partsFrom : Nat → List Token → List Token → List (List Token) × List Token
  | _, part, [] => ([part.reverse], [])
  | depth, part, t :: rest =>
    if t.is "(" then partsFrom (depth + 1) (t :: part) rest
    else if t.is ")" then
      match depth with
      | 0 => ([part.reverse], t :: rest)
      | depth + 1 => partsFrom depth (t :: part) rest
    else if t.is "," ∧ depth = 0 then
      let (parts, tail) := partsFrom 0 [t] rest
      (part.reverse :: parts, tail)
    else partsFrom depth (t :: part) rest

def ofText (sql : String) : Body :=
  let ts := tokensOf sql
  let head := ts.takeWhile fun t => !t.is "("
  match ts.drop head.length with
  | t :: rest =>
    let (parts, tail) := partsFrom 0 [] rest
    ⟨head ++ [t], parts, tail⟩
  | [] => ⟨head, [], []⟩

def text (b : Body) : String := tokensText (b.head ++ b.parts.flatten ++ b.tail)

end Body

def renamedToken (new : String) (quoted : Bool) (t : Token) : Token :=
  let raw := if t.isWord && !quoted then new.toList else (quotedName new).toList
  { t with raw }

def names (t : Token) (name : String) : Bool := (t.objectName?.map (sameName name)).getD false

def renameInside (table old new : String) (quoted : Bool) :
    Nat → Bool → List Token → List Token
  | _, _, [] => []
  | depth, foreign, t :: rest =>
    if t.is "REFERENCES" then
      match rest with
      | u :: rest => t :: u :: renameInside table old new quoted depth (!names u table) rest
      | [] => [t]
    else if t.is "(" then t :: renameInside table old new quoted (depth + 1) foreign rest
    else if t.is ")" then
      t :: renameInside table old new quoted (depth - 1) (foreign && depth ≠ 1) rest
    else if 0 < depth && !foreign && names t old && !((rest.headD default).is "(") then
      renamedToken new quoted t :: renameInside table old new quoted depth foreign rest
    else t :: renameInside table old new quoted depth foreign rest

def renameFirst (old new : String) (quoted : Bool) : List Token → List Token
  | t :: rest =>
    if t.is "," then
      match rest with
      | u :: rest => t :: (if names u old then renamedToken new quoted u else u) :: rest
      | [] => [t]
    else (if names t old then renamedToken new quoted t else t) :: rest
  | [] => []

def renameInTable (t : Table) (old new : String) (quoted : Bool) : String :=
  let b := Body.ofText t.sql
  let columns := (b.parts.take t.width).map fun part =>
    renameInside t.name old new quoted 0 false (renameFirst old new quoted part)
  let rules := (b.parts.drop t.width).map (renameInside t.name old new quoted 0 false)
  { b with parts := columns ++ rules }.text

def renameBehind (table old new : String) (quoted : Bool) : Bool → List Token → List Token
  | _, [] => []
  | inside, t :: rest =>
    if t.is "REFERENCES" then
      match rest with
      | u :: v :: rest =>
        t :: u :: v :: renameBehind table old new quoted (names u table && v.is "(") rest
      | rest => t :: rest
    else if t.is ")" then t :: renameBehind table old new quoted false rest
    else
      (if inside && names t old then renamedToken new quoted t else t) ::
        renameBehind table old new quoted inside rest

def renameInIndex (old new : String) (quoted : Bool) (sql : String) : String :=
  let ts := tokensOf sql
  let head := ts.takeWhile fun t => !t.is "("
  tokensText (head ++ (ts.drop head.length).map fun t =>
    if names t old then renamedToken new quoted t else t)

def renameAll (old new : String) (quoted : Bool) (sql : String) : String :=
  tokensText ((tokensOf sql).map fun t =>
    if names t old then renamedToken new quoted t else t)

def renameAfter (word old new : String) : List Token → List Token
  | t :: u :: rest =>
    if t.is word ∧ names u old then
      t :: renamedToken new true u :: renameAfter word old new rest
    else t :: renameAfter word old new (u :: rest)
  | ts => ts

def readInstruction (sql : String) : Except Fault Instruction :=
  match Reader.next (tokensOf sql) with
  | .ok (some i, _) => .ok i
  | .ok (none, _) => .error .incomplete
  | .error e => .error e

def Table.redefined (t : Table) (c : Catalog) (sql : String) : Except Fault Table := do
  match ← readInstruction sql with
  | .createTable _ _ name body _ =>
    let (u, _) ← declared c t.temporary name.name body sql t.root
    .ok { u with rows := t.rows }
  | _ => .error .incomplete

def Index.redefined (i : Index) (sql : String) : Except Fault Index := do
  match ← readInstruction sql with
  | .createIndex _ _ name table terms condition _ =>
    .ok { i with name := name.name, table, terms, condition, sql }
  | _ => .error .incomplete

def View.redefined (v : View) (sql : String) : Except Fault View := do
  match ← readInstruction sql with
  | .createView _ _ name columns query _ => .ok { v with name := name.name, columns, query, sql }
  | _ => .error .incomplete

def renameTerms (old new : String) (terms : List IndexedTerm) : List IndexedTerm :=
  terms.map fun t => match t.term with
    | .column none name quoting =>
      if sameName name old then { t with term := .column none new quoting } else t
    | _ => t

def requireViews (c : Catalog) (change : Option String) : Except Fault Unit :=
  (c.items.filterMap Item.view?).forM fun v =>
    ((resolveView resolveQuery (Site.ofCatalog c) v).map fun _ => ()).mapError fun e =>
      .brokenDefinition .view v.name change e.message

def alterableTable (c : Catalog) (name : ObjectName) : Except Fault Table :=
  if !isKnownSchema name.schema then .error (.noSuchTable (showName name))
  else if Catalog.isSchemaTable name.name then .error (.notAllowed name.name "altered")
  else
    match c.table? name.name with
    | none =>
      match c.view? name.name with
      | some v => .error (.viewAltered v.name)
      | none => .error (.noSuchTable (showName name))
    | some t => if isReserved t.name then .error (.notAllowed t.name "altered") else .ok t

def hasRule (p : ColumnRule → Bool) (d : ColumnDefinition) : Bool := d.rules.any p

def isUnique (c : Catalog) (t : Table) (column : String) : Bool :=
  (c.indexesOf t.name).any fun i => i.origin ≠ .created &&
    i.terms.any fun term => (termColumn? term).any (sameName column)

def checkAlteration (c : Catalog) (name : ObjectName) (change : Alteration) :
    Except Fault Table := do
  let t ← match change, c.view? name.name with
    | .renameColumn .., some v => .error (.viewColumns v.name)
    | .addColumn .., some _ => .error (.cannotAdd "a column to a view")
    | _, _ => alterableTable c name
  match change with
  | .renameTable new =>
    if (c.item? new).isSome then .error (.anotherNamed new)
    else if isReserved new then .error (.reservedName new)
    else .ok t
  | .renameColumn old _ _ =>
    if (t.columnIndex? old).isSome then .ok t else .error (.noSuchQuotedColumn old)
  | .addColumn d _ =>
    if (t.columnIndex? d.name).isSome then .error (.duplicateColumn d.name)
    else if hasRule (fun r => match r with | .primaryKey .. => true | _ => false) d then
      .error (.cannotAdd "a PRIMARY KEY column")
    else if hasRule (fun r => match r with | .unique _ => true | _ => false) d then
      .error (.cannotAdd "a UNIQUE column")
    else .ok t
  | .dropColumn column =>
    match t.column? column with
    | none => .error (.noSuchQuotedColumn column)
    | some found =>
      if found.key ≠ 0 then .error (.cannotDropColumn "PRIMARY KEY" column)
      else if isUnique c t column then .error (.cannotDropColumn "UNIQUE" column)
      else if t.width ≤ 1 then .error (.onlyColumn column)
      else .ok t

def mapItems (f : Item → Except Fault Item) (c : Catalog) : Except Fault Catalog := do
  let items ← c.items.mapM f
  .ok { c with items }

def renameTable (c : Catalog) (t : Table) (new : String) : Except Fault Catalog := do
  let old := t.name
  requireViews c none
  let renamed ← mapItems (fun item =>
    match item with
    | .table u =>
      let ts := renameAfter "REFERENCES" old new (tokensOf u.sql)
      let ts := if sameName u.name old then renameAfter "TABLE" old new ts else ts
      if isReserved u.name then .ok (.table u)
      else (u.redefined c (tokensText ts)).map .table
    | .index i =>
      if !sameName i.table old then .ok (.index i)
      else if i.origin = .created then
        (i.redefined (tokensText (renameAfter "ON" old new (tokensOf i.sql)))).map .index
      else
        let n := i.name.toList.drop ("sqlite_autoindex_" ++ old).length
        .ok (.index { i with table := new, name := "sqlite_autoindex_" ++ new ++ String.ofList n })
    | .view v => (v.redefined (renameAll old new true v.sql)).map .view) c
  match renamed.table? sequenceName with
  | none => .ok renamed
  | some sequence =>
    .ok (renamed.setRows sequenceName (sequence.rows.map fun row =>
      if (row.headD .null).same (.text old) then row.set 0 (.text new) else row))

def renameColumn (c : Catalog) (t : Table) (old new : String) (quoted : Bool) :
    Except Fault Catalog :=
  let broken (e : Fault) : Fault := .brokenDefinition .table t.name (some "rename") e.message
  mapItems (fun item =>
    match item with
    | .table u =>
      if sameName u.name t.name then
        ((u.redefined c (renameInTable u old new quoted)).map Item.table).mapError broken
      else if u.foreignKeys.any fun fk => sameName fk.reference.table t.name then
        (u.redefined c (tokensText (renameBehind t.name old new quoted false (tokensOf u.sql)))).map
          .table
      else .ok (.table u)
    | .index i =>
      if !sameName i.table t.name then .ok (.index i)
      else if i.origin = .created then (i.redefined (renameInIndex old new quoted i.sql)).map .index
      else .ok (.index { i with terms := renameTerms old new i.terms })
    | .view v =>
      if (tokensOf v.sql).any fun u => names u t.name then
        (v.redefined (renameAll old new quoted v.sql)).map .view
      else .ok (.view v)) c

def renameColumnSafely (c : Catalog) (t : Table) (old new : String) (quoted : Bool) :
    Except Fault Catalog := do
  requireViews c none
  let renamed ← renameColumn c t old new quoted
  requireViews renamed (some "rename")
  .ok renamed

def isLiteral : Words → Bool
  | .value _ => true
  | .unary .negate t | .unary .plus t => isLiteral t
  | .cast t _ => isLiteral t
  | _ => false

def addInTable (t : Table) (written : String) : String :=
  let b := Body.ofText t.sql
  let last := (b.parts.take t.width).flatten
  let rest := (b.parts.drop t.width).flatten ++ b.tail
  match rest with
  | u :: rest =>
    tokensText (b.head ++ last) ++ String.ofList u.lead ++ ", " ++ written ++
      tokensText ({ u with lead := [] } :: rest)
  | [] => t.sql

def addColumn (s : Scene) (c : Catalog) (t : Table) (d : ColumnDefinition) (written : String) :
    Except Fault Catalog := do
  let u ← t.redefined c (addInTable t written)
  match u.column? d.name with
  | none => .ok c
  | some column => do
    let refers := hasRule (fun r => match r with | .references _ => true | _ => false) d
    let value ← column.defaultValue s
    let value := column.affinity.store value
    if t.rows.entries.isEmpty then .ok (c.setTable u)
    else if refers && !value.isNull then .error .referenceDefault
    else if column.required.isSome && value.isNull then .error .lacksDefault
    else if !(column.default.map fun d => isLiteral d.1).getD true then .error .constantOnly
    else
      let filled := { u with rows := t.rows.map fun row => row ++ [value] }
      let checks := u.checks.drop t.checks.length
      let c := c.setTable filled
      let broken ← checks.mapM fun check => do
        let typed ← filled.resolve c check.condition
        keep (fun (e : Int64 × Row) => do
          let v ← (s.holding c).value (Table.seen e.1 e.2) typed.expr
          .ok (v.truth = some false)) filled.rows.entries
      if broken.all List.isEmpty then .ok c else .error (.raised "CHECK constraint failed")

def dropInTable (t : Table) (i : Nat) : String :=
  let b := Body.ofText t.sql
  if i + 1 < t.width then
    match b.parts[i]?, b.parts[i + 1]? with
    | some part, some (comma :: first :: next) =>
      let kept := match part with
        | u :: v :: _ =>
          if u.is "," then [u, { first with lead := v.lead }]
          else [{ first with lead := u.lead }]
        | [u] => [{ first with lead := u.lead }]
        | [] => [first]
      let _ := comma
      { b with parts := b.parts.take i ++ (kept ++ next) :: b.parts.drop (i + 2) }.text
    | _, _ => t.sql
  else
    let b' := { b with parts := b.parts.eraseIdx i }
    let rest := (b'.parts.drop i).flatten ++ b.tail
    tokensText (b.head ++ (b'.parts.take i).flatten ++
      match rest with
      | u :: rest => { u with lead := [] } :: rest
      | [] => [])

def dropColumn (c : Catalog) (t : Table) (i : Nat) : Except Fault Catalog := do
  let broken (kind : ObjectKind) (name : String) (e : Fault) : Fault :=
    .brokenDefinition kind name (some "drop column") e.message
  requireViews c none
  let u ← (t.redefined c (dropInTable t i)).mapError (broken .table t.name)
  let u := { u with rows := t.rows.map fun row => row.eraseIdx i }
  (c.indexesOf t.name).forM fun index => index.terms.forM fun term =>
    ((u.resolve c term.term).map fun _ => ()).mapError (broken .index index.name)
  let dropped := c.setTable u
  requireViews dropped (some "drop column")
  .ok dropped

def alter (s : Scene) (c : Catalog) (name : ObjectName) (change : Alteration) :
    Except Fault Catalog := do
  let t ← checkAlteration c name change
  match change with
  | .renameTable new => renameTable c t new
  | .renameColumn old new quoted => renameColumnSafely c t old new quoted
  | .addColumn d written => addColumn s c t d written
  | .dropColumn column => dropColumn c t ((t.columnIndex? column).getD 0)

end Tabular.Sql
