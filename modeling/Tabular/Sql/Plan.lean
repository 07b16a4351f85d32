import Tabular.Sql.Function
import Tabular.Sql.Phrase

/-!
# Plans

What is left of a query once every name in it has its meaning: columns are places
in rows, and comparisons know their affinity and their collation. `P` stands for
the plan of a query inside an expression.
-/

set_option autoImplicit false

namespace Tabular.Sql

structure Place where
  depth : Nat
  index : Nat
deriving DecidableEq

inductive Expr (P : Type) where
  | value (v : Value)
  | parameter (number : Nat)
  | place (p : Place)
  | unary (op : UnaryOp) (e : Expr P)
  | binary (op : BinaryOp) (l r : Expr P)
  | compare (op : BinaryOp) (affinity : Affinity) (collation : Collation) (l r : Expr P)
  | inList (negated : Bool) (affinity : Affinity) (collation : Collation) (e : Expr P)
      (items : List (Expr P))
  | inPlan (negated : Bool) (affinity : Affinity) (collation : Collation) (e : Expr P) (p : P)
  | exists (p : P)
  | scalar (p : P)
  | choice (condition yes no : Expr P)
  | cast (affinity : Affinity) (e : Expr P)
  | call (f : Scalar) (collation : Collation) (arguments : List (Expr P))

inductive Supply (P : Type) where
  | table (name : String)
  | plan (p : P)
  | working (level : Nat)
  | columnsOf (table : Expr P)

structure Joined (P : Type) where
  supply : Supply P
  width : Nat
  kind : JoinKind
  condition : Option (Expr P)

structure Gathered (P : Type) where
  function : Aggregate
  distinct : Bool
  collation : Collation
  arguments : List (Expr P)

structure Grouping (P : Type) where
  keys : List (Collation × Expr P)
  gathered : List (Gathered P)
  having : Option (Expr P)

inductive Stage (P : Type) where
  | select (sources : List (Joined P)) (condition : Option (Expr P))
      (grouping : Option (Grouping P)) (outputs : List (Expr P)) (distinct : Bool)
  | values (rows : List (List (Expr P)))

structure SortColumn where
  index : Nat
  collation : Collation
  descending : Bool
  nullsFirst : Bool
deriving DecidableEq

structure PlanOf (P : Type) where
  width : Nat
  collations : List Collation
  first : Stage P
  rest : List (Compound × Stage P)
  order : List SortColumn
  limit : Option (Expr P)
  offset : Option (Expr P)

structure Recursion (P : Type) where
  initial : P
  step : P
  width : Nat
  distinct : Bool
  limit : Option (Expr P)
  offset : Option (Expr P)

inductive Plan where
  | query (q : PlanOf Plan)
  | recursion (r : Recursion Plan)

def Plan.nesting : Nat := 1000

abbrev Formula := Expr Plan

end Tabular.Sql
