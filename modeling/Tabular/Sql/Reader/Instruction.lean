import Tabular.Sql.Reader.Definition

/-!
# Reading statements

A text holds statements with semicolons between them; each is read up to its
semicolon before the next one is looked at.
-/

set_option autoImplicit false

namespace Tabular.Sql.Reader

def conflictAfterOr : Reader (Option Conflict) := do
  if ← take "OR" then some <$> conflictWord else pure none

def assignments (p : Phrases) : Reader (List Assignment) :=
  items (do
    let name ← objectName
    expect "="
    let t ← p.term 1
    pure (name, t))

def returningAfter (p : Phrases) : Reader (List (ResultColumn Query)) := do
  if ← take "RETURNING" then items (resultColumn p) else pure []

def upsert (p : Phrases) : Reader (Option Upsert) := do
  if ← takeAll ["ON", "CONFLICT"] then
    let t ← peek
    let target ← if t.is "(" then between (items (indexedTerm p)) else pure []
    let names := target.filterMap fun i => match i.term with
      | .column _ name _ => some name
      | _ => none
    if !target.isEmpty then let _ ← after "WHERE" (p.term 1)
    expect "DO"
    if ← take "NOTHING" then pure (some ⟨names, [], none⟩)
    else do
      expectAll ["UPDATE", "SET"]
      let assigned ← assignments p
      let condition ← after "WHERE" (p.term 1)
      pure (some ⟨names, assigned, condition⟩)
  else pure none

def insertion (p : Phrases) (commons : Bool × List (CommonTable Query))
    (conflict : Option Conflict) : Reader Instruction := do
  expect "INTO"
  let table ← qualifiedName
  let label ← after "AS" objectName
  let t ← peek
  let columns ← if t.is "(" then between nameList else pure []
  if ← takeAll ["DEFAULT", "VALUES"] then
    let returning ← returningAfter p
    pure (.insert ⟨table, label, conflict, columns, none, [], returning⟩)
  else do
    let own ← commonTables p
    let q ← queryAfter p (commons.1 || own.1, commons.2 ++ own.2)
    let upserts ← many (upsert p)
    let returning ← returningAfter p
    pure (.insert ⟨table, label, conflict, columns, some q, upserts, returning⟩)

def targetLabel : Reader (Option String) := do
  let label ← after "AS" objectName
  if ← takeAll ["INDEXED", "BY"] then let _ ← objectName
  else let _ ← takeAll ["NOT", "INDEXED"]
  pure label

def update (p : Phrases) (commons : List (CommonTable Query)) : Reader Instruction := do
  let conflict ← conflictAfterOr
  let table ← qualifiedName
  let label ← targetLabel
  expect "SET"
  let assigned ← assignments p
  let sources ← after "FROM" (fun ts => sourceList p (ts.length + 1) ts)
  let condition ← after "WHERE" (p.term 1)
  let returning ← returningAfter p
  pure (.update commons ⟨table, label, conflict, assigned, sources.getD [], condition, returning⟩)

def deletion (p : Phrases) (commons : List (CommonTable Query)) : Reader Instruction := do
  expect "FROM"
  let table ← qualifiedName
  let label ← targetLabel
  let condition ← after "WHERE" (p.term 1)
  let returning ← returningAfter p
  pure (.delete commons ⟨table, label, condition, returning⟩)

def rowsInstruction (p : Phrases) (commons : Bool × List (CommonTable Query)) :
    Reader Instruction := do
  if ← take "INSERT" then
    let conflict ← conflictAfterOr
    insertion p commons conflict
  else if ← take "REPLACE" then insertion p commons (some .replace)
  else if ← take "UPDATE" then update p commons.2
  else if ← take "DELETE" then deletion p commons.2
  else .query <$> queryAfter p commons

def createTable (p : Phrases) (temporary : Bool) : Reader Instruction := do
  let lenient ← takeAll ["IF", "NOT", "EXISTS"]
  let start ← tokens
  let name ← qualifiedName
  let start := if name.schema.isSome then start.drop 2 else start
  if ← take "AS" then
    let q ← p.query
    pure (.createTableAs temporary lenient name q)
  else do
    let body ← tableBody p
    let written ← textSince start
    pure (.createTable temporary lenient name body written)

def createIndex (p : Phrases) (unique : Bool) : Reader Instruction := do
  let lenient ← takeAll ["IF", "NOT", "EXISTS"]
  let start ← tokens
  let name ← qualifiedName
  let start := if name.schema.isSome then start.drop 2 else start
  expect "ON"
  let table ← objectName
  let terms ← between (items (indexedTerm p))
  let condition ← after "WHERE" (p.term 1)
  let written ← textSince start
  pure (.createIndex unique lenient name table terms condition written)

def createView (p : Phrases) (temporary : Bool) : Reader Instruction := do
  let lenient ← takeAll ["IF", "NOT", "EXISTS"]
  let start ← tokens
  let name ← qualifiedName
  let start := if name.schema.isSome then start.drop 2 else start
  let t ← peek
  let columns ← if t.is "(" then between nameList else pure []
  expect "AS"
  let q ← p.query
  let written ← textSince start
  pure (.createView temporary lenient name columns q written)

def create (p : Phrases) : Reader Instruction := do
  let t ← peek
  let temporary := t.isAny ["TEMP", "TEMPORARY"]
  if temporary then skip
  if ← take "TABLE" then createTable p temporary
  else if ← take "VIEW" then createView p temporary
  else if temporary then refuse
  else if ← take "UNIQUE" then
    expect "INDEX"
    createIndex p true
  else do
    expect "INDEX"
    createIndex p false

def dropObject : Reader Instruction := do
  let t ← peek
  let kind : ObjectKind ← match t.key with
    | "TABLE" => pure .table
    | "INDEX" => pure .index
    | "VIEW" => pure .view
    | "TRIGGER" => pure .trigger
    | _ => refuse
  skip
  let lenient ← takeAll ["IF", "EXISTS"]
  let name ← qualifiedName
  pure (.drop kind lenient name)

def alteration (p : Phrases) : Reader Alteration := do
  if ← take "RENAME" then
    if ← take "TO" then .renameTable <$> objectName
    else do
      let next ← peekSecond
      let t ← peek
      if t.is "COLUMN" ∧ !next.is "TO" then skip
      let old ← objectName
      expect "TO"
      let t ← peek
      let new ← objectName
      pure (.renameColumn old new !t.isWord)
  else if ← take "ADD" then
    let next ← peekSecond
    let t ← peek
    if t.is "COLUMN" ∧ (next.objectName?.isSome) then skip
    let start ← tokens
    let c ← column p
    let written ← textSince start
    pure (.addColumn c written)
  else do
    expect "DROP"
    let next ← peekSecond
    let t ← peek
    if t.is "COLUMN" ∧ next.objectName?.isSome then skip
    .dropColumn <$> objectName

def transactionTail : Reader Unit := do
  if ← take "TRANSACTION" then
    fun ts => match (first ts).objectName? with
      | some _ => .ok ((), ts.tail)
      | none => .ok ((), ts)

def pragmaValue : Reader String := do
  let t ← peek
  let sign ← if t.isAny ["+", "-"] then (do skip; pure t.text) else pure ""
  let t ← peek
  match t.lexeme with
  | .integer | .float => do skip; pure (sign ++ t.text)
  | _ =>
    if t.isAny ["ON", "DELETE", "DEFAULT"] then do skip; pure t.text
    else objectName

def pragma : Reader Instruction := do
  let name ← qualifiedName
  if ← take "=" then
    let v ← pragmaValue
    pure (.pragma name.name (some v))
  else do
    let t ← peek
    if t.is "(" then
      let v ← between pragmaValue
      pure (.pragma name.name (some v))
    else pure (.pragma name.name none)

def nameIfAny : Reader Unit := fun ts =>
  if (first ts).lexeme = .finish ∨ (first ts).is ";" then .ok ((), ts)
  else (qualifiedName ts).map fun r => ((), r.2)

def instruction (p : Phrases) : Reader Instruction := do
  let t ← peek
  match t.key with
  | "SELECT" | "VALUES" => .query <$> p.query
  | "WITH" => do
    let commons ← commonTables p
    rowsInstruction p commons
  | "INSERT" | "REPLACE" | "UPDATE" | "DELETE" => rowsInstruction p (false, [])
  | "CREATE" => do
    skip
    create p
  | "DROP" => do
    skip
    dropObject
  | "ALTER" => do
    expectAll ["ALTER", "TABLE"]
    let table ← qualifiedName
    .alter table <$> alteration p
  | "BEGIN" => do
    skip
    let t ← peek
    if t.isAny ["DEFERRED", "IMMEDIATE", "EXCLUSIVE"] then skip
    transactionTail
    pure .begin
  | "COMMIT" | "END" => do
    skip
    transactionTail
    pure .commit
  | "ROLLBACK" => do
    skip
    transactionTail
    if ← take "TO" then
      let t ← peek
      let next ← peekSecond
      if t.is "SAVEPOINT" ∧ next.objectName?.isSome then skip
      .rollbackTo <$> objectName
    else pure .rollback
  | "SAVEPOINT" => do
    skip
    .savepoint <$> objectName
  | "RELEASE" => do
    skip
    let t ← peek
    let next ← peekSecond
    if t.is "SAVEPOINT" ∧ next.objectName?.isSome then skip
    .release <$> objectName
  | "PRAGMA" => do
    skip
    pragma
  | "VACUUM" => do
    skip
    nameIfAny
    pure .vacuum
  | "ANALYZE" | "REINDEX" => do
    skip
    nameIfAny
    pure .maintain
  | _ => refuse

def next : Reader (Option Instruction) := fun ts =>
  let ts := ts.dropWhile fun t => t.is ";"
  if (first ts).lexeme = .finish then .ok (none, ts)
  else
    match instruction (phrases (ts.length + 1)) ts with
    | .error e => .error e
    | .ok (i, rest) =>
      if (first rest).is ";" ∨ (first rest).lexeme = .finish then .ok (some i, rest)
      else .error (faultAt (first rest))

end Tabular.Sql.Reader
