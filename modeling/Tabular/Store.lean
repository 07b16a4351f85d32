import Tabular.Answer
import Tabular.Error
import Tabular.Moment
import Tabular.Sql.Connection
import Tabular.Statement.Basic

/-!
# Stores

A store runs statements with bound values. A statement is compiled, its values are
counted and converted, and only then anything runs; it must end in time.
-/

set_option autoImplicit false

namespace Tabular

open Sql (Connection)

structure Store where
  connection : Connection
  /-- Texts compiled before, the latest first. They are not compiled a second time. -/
  compiled : List (String × Connection.Compiled)
  /-- How long a statement may take, in milliseconds. -/
  timeout : Nat

namespace Store

def ofConnection (connection : Connection) (timeout : Nat) : Store := ⟨connection, [], timeout⟩

def timeoutSeconds (s : Store) : Nat := s.timeout / 1000

def patience (s : Store) : Nat := min (100 * s.timeout) 100000

def capacity : Nat := 100

def compile (s : Store) (sql : String) : Except Sql.Fault (List Sql.Prepared) × Store :=
  let before := (s.compiled.find? fun e => e.1 = sql).map Prod.snd
  let (done, fault) := s.connection.prepare (before.getD (.ofText (Text.trimmed sql)))
  let others := s.compiled.filter fun e => e.1 ≠ sql
  let kept := { s with compiled := (sql, done) :: others.take (capacity - 1) }
  match fault with
  | some e => (.error e, kept)
  | none => (.ok done.ready, kept)

def convert (type : ColumnType) (value : String) : Option Sql.Value :=
  match type with
  | .integer => (Decimal.word64? (Text.trim value.toList)).map .int
  | .float => (Decimal.real? (Text.trim value.toList)).map .ofReal
  | .string => some (.text value)

def convertAll : Nat → List String → List ColumnType → Except AccessError (List Sql.Value)
  | index, value :: values, type :: types =>
    match convert type value with
    | none => .error (.invalidValue index value type)
    | some v => do
      let vs ← convertAll (index + 1) values types
      .ok (v :: vs)
  | _, _, _ => .ok []

def numberOf (name : String) : Except StoreError Nat :=
  match name.toList with
  | '?' :: digits => .ok (Decimal.natOf 0 digits)
  | '$' :: digits =>
    match Decimal.whole 0 Decimal.mostWord digits with
    | .ok n => .ok n.toNat
    | .error _ => .error (.parameterName (String.ofList digits))
  | _ => .error (.parameter name)

def bindFrom (ps : Sql.Parameters) (values : List Sql.Value) :
    Nat → Nat → Nat → Except StoreError (List Sql.Value × Nat)
  | 0, _, used => .ok ([], used)
  | left + 1, n, used => do
    let (wanted, used) ← match ps.name? n with
      | some name => do
        let wanted ← numberOf name
        .ok (wanted, used)
      | none => .ok (used + 1, used + 1)
    match values[wanted - 1]? with
    | none => .ok ([], used)
    | some v => do
      let (vs, used) ← bindFrom ps values left (n + 1) used
      .ok (v :: vs, used)

structure Ran where
  rows : List NamedRow
  changes : Nat

def runAll (values : List Sql.Value) (patience : Nat) :
    Connection → Nat → Ran → List Sql.Prepared → Except StoreError Ran × Connection
  | c, _, ran, [] => (.ok ran, c)
  | c, used, ran, p :: rest =>
    match bindFrom p.parameters values p.parameters.count 1 used with
    | .error e => (.error e, c)
    | .ok (bound, used) =>
      match c.run patience bound p.instruction with
      | (c, .error e) => (.error (.sql e), c)
      | (c, .ok rows) =>
        let ran : Ran :=
          ⟨ran.rows ++ rows.map (NamedRow.ofValues p.columns), ran.changes + c.counters.changes⟩
        runAll values patience c used ran rest

def answer (ps : List Sql.Prepared) (ran : Ran) (c : Connection) : Answer :=
  if ps.any fun p => !p.columns.isEmpty then .ofRows ran.rows
  else if ps.isEmpty then .ofCounts 0 0
  else .ofCounts ran.changes c.counters.lastId

def bindings (ps : List Sql.Prepared) (s : Statement) : Except AccessError (List Sql.Value) :=
  let expected := Sql.total (ps.map fun p => p.parameters.count)
  if s.values.length ≠ s.types.length ∨ s.values.length ≠ expected then
    .error (.bindArity expected s.values.length s.types.length)
  else convertAll 0 s.values s.types

def timedOut (s : Store) (e : StoreError) (other : StoreError → AccessError) : AccessError :=
  if e = .sql .interrupted then .timeout s.timeoutSeconds else other e

def run (s : Store) (statement : Statement) : Except AccessError Answer × Store :=
  match s.compile statement.sql with
  | (.error e, s) => (.error (s.timedOut (.sql e) .prepare), s)
  | (.ok ps, s) =>
    match bindings ps statement with
    | .error e => (.error e, s)
    | .ok values =>
      match runAll values s.patience s.connection 0 ⟨[], 0⟩ ps with
      | (.error e, c) => (.error (s.timedOut e .exec), { s with connection := c })
      | (.ok ran, c) => (.ok (answer ps ran c), { s with connection := c })

def deadline? (s : Store) (now : Moment) : Option Moment := now.later? s.timeout

/-- Runs a statement that begins at a moment. Its deadline comes before all else: where the
clock cannot show it nothing is run, and the program is aborted. -/
def runAt (s : Store) (now : Moment) (statement : Statement) :
    Option (Except AccessError Answer × Store) :=
  (s.deadline? now).map fun _ => s.run statement

end Store
end Tabular
