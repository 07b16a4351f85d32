import Tabular.Error
import Tabular.Filter.Basic

/-!
# Filters as WHERE clauses

A filter becomes a condition text with a placeholder for each of its leaves, in
order, and the values to bind. A combinator is written only between two parts
that have text, and only a group of two or more such parts is put in parentheses.
-/

set_option autoImplicit false

namespace Tabular

structure Clause where
  sql : String
  values : List String
  types : List ColumnType
deriving DecidableEq

namespace Clause

def empty : Clause := ⟨"", [], []⟩

def isEmpty (c : Clause) : Bool := c.sql.isEmpty

end Clause

namespace Filter

structure Fragment where
  clause : Clause
  terms : Nat

def Fragment.before (first : Fragment) (separator : String) (rest : Fragment) : Fragment :=
  ⟨⟨separator ++ first.clause.sql ++ rest.clause.sql, first.clause.values ++ rest.clause.values,
    first.clause.types ++ rest.clause.types⟩, rest.terms + 1⟩

def Fragment.enclosed (f : Fragment) : Fragment :=
  if f.terms ≤ 1 then f
  else ⟨{ f.clause with sql := "(" ++ f.clause.sql ++ ")" }, 1⟩

def separator (started : Bool) (active : Combinator) : String :=
  if started then " " ++ active.sql ++ " " else ""

def conditionFragment (types : ColumnTypes) (c : Condition) :
    Except AccessError Fragment :=
  match types.get? c.field with
  | none => .error (.unknownColumn c.field)
  | some type =>
    let (op, operand) := Operator.extract c.value
    .ok ⟨⟨c.field ++ op.sql ++ "?", [operand], [type]⟩, 1⟩

mutual

def fragment (types : ColumnTypes) (inherited : Combinator) : Filter → Except AccessError Fragment
  | .leaf c => conditionFragment types c
  | .group explicit entries =>
    (entries.fragment types (explicit.getD inherited) false).map Fragment.enclosed

def Entries.fragment (types : ColumnTypes) (active : Combinator) (started : Bool) :
    Entries → Except AccessError Fragment
  | .nil => .ok ⟨.empty, 0⟩
  | .logic rebound rest => rest.fragment types rebound started
  | .node first rest => do
    let part ← first.fragment types active
    if part.terms = 0 then rest.fragment types active started
    else
      let others ← rest.fragment types active true
      .ok (part.before (separator started active) others)

end

def clause (types : ColumnTypes) : Filter → Except AccessError Clause
  | .leaf c => (conditionFragment types c).map Fragment.clause
  | .group explicit entries =>
    (entries.fragment types (explicit.getD .and) false).map Fragment.clause

end Filter
end Tabular
