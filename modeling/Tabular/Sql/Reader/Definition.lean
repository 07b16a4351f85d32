import Tabular.Sql.Reader.Query

/-!
# Reading definitions

The columns of a table with their rules, and the rules of the table as a whole.
-/

set_option autoImplicit false

namespace Tabular.Sql.Reader

def conflictWord : Reader Conflict := do
  let t ← peek
  match t.key with
  | "ROLLBACK" => do skip; pure .rollback
  | "ABORT" => do skip; pure .abort
  | "FAIL" => do skip; pure .fail
  | "IGNORE" => do skip; pure .ignore
  | "REPLACE" => do skip; pure .replace
  | _ => refuse

def onConflict : Reader (Option Conflict) := do
  let next ← peekSecond
  if next.is "CONFLICT" then
    if ← takeAll ["ON", "CONFLICT"] then some <$> conflictWord else pure none
  else pure none

def consequence : Reader Consequence := do
  let t ← peek
  match t.key with
  | "NO" => do expectAll ["NO", "ACTION"]; pure .noAction
  | "RESTRICT" => do skip; pure .restrict
  | "CASCADE" => do skip; pure .cascade
  | "SET" => do
    skip
    if ← take "NULL" then pure .setNull
    else do
      expect "DEFAULT"
      pure .setDefault
  | _ => refuse

def referenceTail : Nat → Reference → Reader Reference
  | 0, r => pure r
  | fuel + 1, r => do
    let t ← peek
    let next ← peekSecond
    if t.is "ON" ∧ next.is "DELETE" then
      expectAll ["ON", "DELETE"]
      let c ← consequence
      referenceTail fuel { r with onDelete := c }
    else if t.is "ON" ∧ next.is "UPDATE" then
      expectAll ["ON", "UPDATE"]
      let c ← consequence
      referenceTail fuel { r with onUpdate := c }
    else if t.is "ON" ∧ next.is "INSERT" then
      expectAll ["ON", "INSERT"]
      let _ ← consequence
      referenceTail fuel r
    else if t.is "MATCH" then
      skip
      let _ ← objectName
      referenceTail fuel r
    else if t.is "DEFERRABLE" ∨ (t.is "NOT" ∧ next.is "DEFERRABLE") then
      let late ← (do pure !(← take "NOT"))
      expect "DEFERRABLE"
      if ← take "INITIALLY" then
        if ← take "DEFERRED" then referenceTail fuel { r with deferred := late }
        else do
          expect "IMMEDIATE"
          referenceTail fuel r
      else referenceTail fuel r
    else pure r

def reference : Reader Reference := do
  expect "REFERENCES"
  let table ← objectName
  let t ← peek
  let columns ← if t.is "(" then between nameList else pure []
  fun ts => referenceTail (ts.length + 1) ⟨table, columns, .noAction, .noAction, false⟩ ts

def checked (p : Phrases) : Reader (Words × String) := do
  expect "("
  let start ← tokens
  let t ← p.term 1
  let span ← spanSince start
  expect ")"
  pure (t, span)

def defaultValue (p : Phrases) : Reader ColumnRule := do
  let start ← tokens
  let t ← peek
  if t.is "(" then do
    let t ← parenthesised p
    let span ← textSince start
    pure (.default t span)
  else if t.isAny ["+", "-"] then do
    let t ← operand p
    let span ← textSince start
    pure (.default t span)
  else
    match t.lexeme with
    | .integer | .float | .string _ | .blob _ => do
      let t ← operand p
      let span ← textSince start
      pure (.default t span)
    | .word =>
      if t.isAny ["NULL", "CURRENT_DATE", "CURRENT_TIME", "CURRENT_TIMESTAMP"] then do
        let t ← wordOperand p t
        let span ← textSince start
        pure (.default t span)
      else if reservedWords.contains t.key then refuse
      else do
        skip
        pure (.default (match t.key with
          | "TRUE" => .value (.int 1)
          | "FALSE" => .value (.int 0)
          | _ => .value (.text t.text)) t.text)
    | .name s _ => do
      skip
      pure (.default (.value (.text s)) t.text)
    | _ => refuse

def columnRule (p : Phrases) : Reader (Option ColumnRule) := do
  let name ← after "CONSTRAINT" objectName
  let t ← peek
  match t.key with
  | "NULL" => do
    skip
    let _ ← onConflict
    pure (some .nullable)
  | "NOT" => do
    expectAll ["NOT", "NULL"]
    some <$> .notNull <$> onConflict
  | "DEFAULT" => do
    skip
    some <$> defaultValue p
  | "PRIMARY" => do
    expectAll ["PRIMARY", "KEY"]
    let descending ← take "DESC"
    if !descending then let _ ← take "ASC"
    let conflict ← onConflict
    let autoincrement ← take "AUTOINCREMENT"
    pure (some (.primaryKey descending autoincrement conflict))
  | "UNIQUE" => do
    skip
    some <$> .unique <$> onConflict
  | "CHECK" => do
    skip
    let (t, span) ← checked p
    pure (some (.check name t span))
  | "REFERENCES" => some <$> .references <$> reference
  | "COLLATE" => do
    skip
    some <$> .collate <$> objectName
  | _ => if name.isSome ∧ !t.isAny [",", ")", "CONSTRAINT"] then refuse else pure none

def column (p : Phrases) : Reader ColumnDefinition := do
  let name ← objectName
  let type ← typeName
  let rules ← many (columnRule p)
  pure ⟨name, type, rules⟩

def indexedTerm (p : Phrases) : Reader IndexedTerm := do
  let o ← orderTerm p
  pure ⟨o.term, o.descending⟩

def startsTableRule (t : Token) : Bool :=
  t.isAny ["CONSTRAINT", "PRIMARY", "UNIQUE", "CHECK", "FOREIGN"]

def tableRule (p : Phrases) : Reader TableRule := do
  let name ← after "CONSTRAINT" objectName
  let t ← peek
  match t.key with
  | "PRIMARY" => do
    expectAll ["PRIMARY", "KEY", "("]
    let terms ← items (indexedTerm p)
    let autoincrement ← take "AUTOINCREMENT"
    expect ")"
    let conflict ← onConflict
    pure (.primaryKey terms autoincrement conflict)
  | "UNIQUE" => do
    skip
    let terms ← between (items (indexedTerm p))
    let conflict ← onConflict
    pure (.unique terms conflict)
  | "CHECK" => do
    skip
    let (t, span) ← checked p
    let _ ← onConflict
    pure (.check name t span)
  | "FOREIGN" => do
    expectAll ["FOREIGN", "KEY"]
    let columns ← between nameList
    let r ← reference
    pure (.foreignKey columns r)
  | _ => refuse

def columnsAfter (p : Phrases) (given : List String) : Nat → Reader (List ColumnDefinition)
  | 0 => refuse
  | fuel + 1 => do
    let c ← column p
    let key := c.name.map Char.toLower
    if given.contains key then fail (.duplicateColumn c.name)
    else do
      let t ← peek
      let next ← peekSecond
      if t.is "," ∧ !startsTableRule next then
        skip
        let rest ← columnsAfter p (key :: given) fuel
        pure (c :: rest)
      else pure [c]

def tableRules (p : Phrases) : Reader (List TableRule) := do
  let t ← peek
  if t.is "," then
    many (do
      let t ← peek
      if t.is "," then
        skip
        some <$> tableRule p
      else if startsTableRule t then some <$> tableRule p
      else pure none)
  else pure []

def tableOptions : Nat → Bool × Bool → Reader (Bool × Bool)
  | 0, found => pure found
  | fuel + 1, (bare, strict) => do
    let t ← peek
    let found : Bool × Bool ← do
      if t.is "WITHOUT" then
        skip
        let word ← objectName
        if word.map Char.toLower = "rowid" then pure (true, strict)
        else fail (.unknownOption word)
      else if t.isWord then
        let word ← objectName
        if word.map Char.toLower = "strict" then pure (bare, true)
        else fail (.unknownOption word)
      else pure (bare, strict)
    if ← take "," then tableOptions fuel found else pure found

def tableBody (p : Phrases) : Reader TableDefinition := do
  expect "("
  let columns ← fun ts => columnsAfter p [] (ts.length + 1) ts
  let rules ← tableRules p
  expect ")"
  let (bare, strict) ← fun ts => tableOptions (ts.length + 1) (false, false) ts
  pure ⟨columns, rules, bare, strict⟩

end Tabular.Sql.Reader
