import Tabular.Sql.Reader
import Tabular.Sql.Number

/-!
# Reading terms

A term is an operand with operators around it. Operators of a higher level bind
tighter, and those of one level group to the left.
-/

set_option autoImplicit false

namespace Tabular.Sql

structure Phrases where
  term : Nat → Reader Words
  query : Reader Query

namespace Reader

open Tabular.Decimal Tabular.Text

def notLevel : Nat := 3

def equalityLevel : Nat := 4

def unaryLevel : Nat := 12

def binaryOp? (t : Token) : Option (Nat × BinaryOp) :=
  match t.key with
  | "OR" => some (1, .or)
  | "AND" => some (2, .and)
  | "=" | "==" => some (4, .equal)
  | "<>" | "!=" => some (4, .notEqual)
  | "<" => some (5, .less)
  | "<=" => some (5, .atMost)
  | ">" => some (5, .greater)
  | ">=" => some (5, .atLeast)
  | "&" => some (7, .bitAnd)
  | "|" => some (7, .bitOr)
  | "<<" => some (7, .shiftLeft)
  | ">>" => some (7, .shiftRight)
  | "+" => some (8, .add)
  | "-" => some (8, .subtract)
  | "*" => some (9, .multiply)
  | "/" => some (9, .divide)
  | "%" => some (9, .remainder)
  | "||" => some (10, .concat)
  | _ => none

def matchWords : List String := ["LIKE", "GLOB", "REGEXP", "MATCH"]

def negatedIf (negated : Bool) (t : Words) : Words := if negated then .unary .not t else t

def numberValue (raw : List Char) : Value :=
  let cs := raw.filter (· ≠ '_')
  match cs with
  | '0' :: 'x' :: ds | '0' :: 'X' :: ds =>
    .int (Int64.ofNat (ds.foldl (fun n c => 16 * n + (hexDigit? c).getD 0) 0))
  | cs =>
    let n := Numeral.ofChars cs
    match (if n.integral then n.toInt? else none) with
    | some i => .int i
    | none => .real n.toReal

def leastDigits : List Char := "9223372036854775808".toList

def startsQuery (t : Token) : Bool := t.isAny ["SELECT", "VALUES", "WITH"]

def typeName : Reader String := do
  let start ← tokens
  let words ← many (fun ts =>
    match (first ts).lexeme with
    | .string s => .ok (some s, ts.tail)
    | _ =>
      match (first ts).name? ("GENERATED" :: joinWords ++ reservedWords) with
      | some s => .ok (some s, ts.tail)
      | none => .ok (none, ts))
  if words.isEmpty then pure ""
  else do
    if ← take "(" then
      let signed : Reader Unit := do
        let t ← peek
        if t.isAny ["+", "-"] then skip
        let t ← peek
        if t.lexeme = .integer ∨ t.lexeme = .float then skip else refuse
      signed
      if ← take "," then signed
      expect ")"
    textSince start

def argumentsTo (p : Phrases) (function : String) : Reader Words := do
  expect "("
  if ← take "*" then
    expect ")"
    pure (.callStar function)
  else do
    let t ← peek
    let distinct := t.is "DISTINCT"
    if distinct ∨ t.is "ALL" then skip
    if ← take ")" then pure (.call function distinct [])
    else do
      let arguments ← items (p.term 1)
      expect ")"
      pure (.call function distinct arguments)

def named (p : Phrases) (name : String) (quoting : Quoting) : Reader Words := do
  let t ← peek
  if t.is "(" then argumentsTo p name
  else if t.is "." then do
    skip
    let second ← objectName
    if ← take "." then
      let third ← objectName
      pure (.column (some second) third .other)
    else pure (.column (some name) second .other)
  else pure (.column none name quoting)

def choices (p : Phrases) (base : Option Words) : Nat → Reader Words
  | 0 => refuse
  | fuel + 1 => do
    expect "WHEN"
    let condition ← p.term 1
    expect "THEN"
    let yes ← p.term 1
    let condition := match base with
      | some b => .binary .equal b condition
      | none => condition
    let t ← peek
    if t.is "WHEN" then
      let no ← choices p base fuel
      pure (.choice condition yes no)
    else do
      let no ← after "ELSE" (p.term 1)
      expect "END"
      pure (.choice condition yes (no.getD (.value .null)))

def parenthesised (p : Phrases) : Reader Words := do
  expect "("
  let t ← peek
  if startsQuery t then do
    let q ← p.query
    expect ")"
    pure (.scalar q)
  else do
    let terms ← items (p.term 1)
    expect ")"
    match terms with
    | [t] => pure t
    | ts => pure (.row ts)

def wordOperand (p : Phrases) (t : Token) : Reader Words :=
  match t.key with
  | "NULL" => do
    skip
    pure (.value .null)
  | "NOT" => do
    skip
    let operand ← p.term notLevel
    pure (.unary .not operand)
  | "EXISTS" => do
    skip
    let q ← between p.query
    pure (.exists q)
  | "CASE" => do
    skip
    let t ← peek
    let base ← if t.is "WHEN" then pure none else some <$> p.term 1
    fun ts => choices p base (ts.length + 1) ts
  | "CAST" => do
    skip
    expect "("
    let operand ← p.term 1
    expect "AS"
    let type ← typeName
    expect ")"
    pure (.cast operand type)
  | "RAISE" => fail .raiseOutsideTrigger
  | "CURRENT_DATE" | "CURRENT_TIME" | "CURRENT_TIMESTAMP" => do
    skip
    pure (.call t.text false [])
  | _ =>
    if reservedWords.contains t.key then refuse
    else do
      skip
      named p t.text .bare

def operand (p : Phrases) : Reader Words := do
  let t ← peek
  match t.lexeme with
  | .integer | .float => do
    skip
    pure (.value (numberValue t.raw))
  | .string s => do
    skip
    let next ← peek
    if next.is "." then named p s .other else pure (.value (.text s))
  | .blob bytes => do
    skip
    pure (.value (.blob bytes))
  | .parameter n =>
    match t.raw with
    | '#' :: c :: _ => do
      if c.isDigit then refuse else skip
      pure (.parameter n)
    | _ => do
      skip
      pure (.parameter n)
  | .name s double => do
    skip
    named p s (if double then .double else .other)
  | .word => wordOperand p t
  | .symbol =>
    match t.key with
    | "(" => parenthesised p
    | "-" => do
      skip
      let next ← peek
      if next.raw = leastDigits then
        skip
        pure (.value (.int Int64.minValue))
      else
        let operand ← p.term unaryLevel
        pure (.unary .negate operand)
    | "+" => do
      skip
      let operand ← p.term unaryLevel
      pure (.unary .plus operand)
    | "~" => do
      skip
      let operand ← p.term unaryLevel
      pure (.unary .complement operand)
    | _ => refuse
  | .illegal | .finish => refuse

def testAfter (p : Phrases) (negated : Bool) (left : Words) : Reader Words := do
  let t ← peek
  if t.is "IN" then do
    skip
    if ← take "(" then
      let next ← peek
      if startsQuery next then do
        let q ← p.query
        expect ")"
        pure (.inQuery negated left q)
      else if ← take ")" then pure (.inList negated left [])
      else do
        let terms ← items (p.term 1)
        expect ")"
        pure (.inList negated left terms)
    else do
      let table ← qualifiedName
      pure (.inQuery negated left (.mk ⟨false, [], .select false [.star]
        [⟨.named table, none, .inner, false, none, []⟩] none [] none, [], [], none, none⟩))
  else if t.is "BETWEEN" then do
    skip
    let low ← p.term notLevel
    expect "AND"
    let high ← p.term (equalityLevel + 1)
    pure (negatedIf negated (.binary .and (.binary .atLeast left low) (.binary .atMost left high)))
  else if t.isAny matchWords then do
    skip
    let pattern ← p.term (equalityLevel + 1)
    let escape ← after "ESCAPE" (p.term (equalityLevel + 1))
    pure (negatedIf negated (.call t.text false ([pattern, left] ++ escape.toList)))
  else refuse

def isAfter (p : Phrases) (left : Words) : Reader Words := do
  let negated ← take "NOT"
  let distinct ← takeAll ["DISTINCT", "FROM"]
  let right ← p.term (equalityLevel + 1)
  pure (.binary (if negated = distinct then .is else .isNot) left right)

def step (p : Phrases) (least : Nat) (left : Words) : Reader (Option Words) := do
  let t ← peek
  match binaryOp? t with
  | some (level, op) =>
    if level < least then pure none
    else do
      skip
      let right ← p.term (level + 1)
      pure (some (.binary op left right))
  | none =>
    if t.is "NOT" ∧ least ≤ notLevel then do
      skip
      if ← take "NULL" then pure (some (.unary .notNull left))
      else some <$> testAfter p true left
    else if t.is "COLLATE" ∧ least < unaryLevel then do
      skip
      let name ← peek
      match name.lexeme, name.name? (joinWords ++ reservedWords) with
      | .string s, _ | _, some s => do
        skip
        pure (some (.collate left s))
      | _, none => refuse
    else if equalityLevel < least then pure none
    else if t.is "IS" then do
      skip
      some <$> isAfter p left
    else if t.is "ISNULL" then do
      skip
      pure (some (.unary .isNull left))
    else if t.is "NOTNULL" then do
      skip
      pure (some (.unary .notNull left))
    else if t.is "IN" ∨ t.is "BETWEEN" ∨ t.isAny matchWords then some <$> testAfter p false left
    else pure none

def climb (p : Phrases) (least : Nat) : Nat → Words → Reader Words
  | 0, _ => refuse
  | fuel + 1, left => do
    match ← step p least left with
    | some t => climb p least fuel t
    | none => pure left

def term (p : Phrases) (least : Nat) : Reader Words := do
  let left ← operand p
  fun ts => climb p least (ts.length + 1) left ts

end Reader
end Tabular.Sql
