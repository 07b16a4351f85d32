import Tabular.Sql.Value

/-!
# Rows under their numbers

The rows of a table stand under whole numbers, each number once, in ascending order.
-/

set_option autoImplicit false

namespace Tabular.Sql

abbrev Row := List Value

def total (sizes : List Nat) : Nat := sizes.foldr (· + ·) 0

structure Rows where
  entries : List (Int64 × Row)

namespace Rows

def empty : Rows := ⟨[]⟩

def setIn (id : Int64) (row : Row) : List (Int64 × Row) → List (Int64 × Row)
  | [] => [(id, row)]
  | (i, r) :: rest =>
    if id < i then (id, row) :: (i, r) :: rest
    else if id = i then (id, row) :: rest
    else (i, r) :: setIn id row rest

def set (rows : Rows) (id : Int64) (row : Row) : Rows := ⟨setIn id row rows.entries⟩

def erase (rows : Rows) (id : Int64) : Rows := ⟨rows.entries.filter fun e => e.1 ≠ id⟩

def get? (rows : Rows) (id : Int64) : Option Row :=
  (rows.entries.find? fun e => e.1 = id).map Prod.snd

def contains (rows : Rows) (id : Int64) : Bool := (rows.get? id).isSome

def last? (rows : Rows) : Option Int64 := rows.entries.getLast?.map Prod.fst

def size (rows : Rows) : Nat := rows.entries.length

def map (f : Row → Row) (rows : Rows) : Rows := ⟨rows.entries.map fun e => (e.1, f e.2)⟩

end Rows
end Tabular.Sql
