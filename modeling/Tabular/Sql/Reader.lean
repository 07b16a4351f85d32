import Tabular.Sql.Keyword
import Tabular.Sql.Phrase

/-!
# Reading tokens

A reader takes what it wants from the front of a list of tokens. It fails at the
first token with which no statement can go on.
-/

set_option autoImplicit false

namespace Tabular.Sql

def Reader (α : Type) := List Token → Except Fault (α × List Token)

namespace Reader

variable {α β : Type}

instance : Monad Reader where
  pure a := fun ts => .ok (a, ts)
  bind r f := fun ts =>
    match r ts with
    | .ok (a, rest) => f a rest
    | .error e => .error e

def first (ts : List Token) : Token := ts.headD ⟨[], [], .finish⟩

def faultAt (t : Token) : Fault :=
  match t.lexeme with
  | .finish => .incomplete
  | .illegal => .badToken t.text
  | _ => .near t.text

def refuse : Reader α := fun ts => .error (faultAt (first ts))

def fail (e : Fault) : Reader α := fun _ => .error e

def tokens : Reader (List Token) := fun ts => .ok (ts, ts)

def peek : Reader Token := fun ts => .ok (first ts, ts)

def peekSecond : Reader Token := fun ts => .ok (first ts.tail, ts)

def skip : Reader Unit := fun ts => .ok ((), ts.tail)

def take (key : String) : Reader Bool := fun ts =>
  if (first ts).is key then .ok (true, ts.tail) else .ok (false, ts)

def expect (key : String) : Reader Unit := fun ts =>
  if (first ts).is key then .ok ((), ts.tail) else .error (faultAt (first ts))

def expectAll : List String → Reader Unit
  | [] => pure ()
  | key :: rest => do
    expect key
    expectAll rest

def takeAll : List String → Reader Bool
  | [] => pure true
  | key :: rest => do
    if ← take key then
      expectAll rest
      pure true
    else pure false

def objectName : Reader String := fun ts =>
  match (first ts).objectName? with
  | some s => .ok (s, ts.tail)
  | none => .error (faultAt (first ts))

def commaList (item : Reader α) : Nat → Reader (List α)
  | 0 => refuse
  | fuel + 1 => do
    let a ← item
    if ← take "," then
      let rest ← commaList item fuel
      pure (a :: rest)
    else pure [a]

def items (item : Reader α) : Reader (List α) := fun ts => commaList item (ts.length + 1) ts

def between (item : Reader α) : Reader α := do
  expect "("
  let a ← item
  expect ")"
  pure a

def after (key : String) (item : Reader α) : Reader (Option α) := do
  if ← take key then
    let a ← item
    pure (some a)
  else pure none

def repeated (item : Reader (Option α)) : Nat → Reader (List α)
  | 0 => pure []
  | fuel + 1 => do
    match ← item with
    | some a =>
      let rest ← repeated item fuel
      pure (a :: rest)
    | none => pure []

def many (item : Reader (Option α)) : Reader (List α) := fun ts =>
  repeated item (ts.length + 1) ts

def textSince (start : List Token) : Reader String := fun ts =>
  .ok (match start.take (start.length - ts.length) with
    | [] => ""
    | t :: rest => String.ofList (t.raw ++ rest.flatMap fun u => u.lead ++ u.raw), ts)

def spanSince (start : List Token) : Reader String := fun ts =>
  .ok (spanText (start.take (start.length - ts.length)) (first ts), ts)

def qualifiedName : Reader ObjectName := do
  let t ← peek
  let a ← objectName
  if ← take "." then
    let u ← peek
    let b ← objectName
    pure ⟨some a, b, u.text⟩
  else pure ⟨none, a, t.text⟩

end Reader
end Tabular.Sql
