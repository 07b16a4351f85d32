import Tabular.Input
import Tabular.Text.Blank
import Tabular.Text.Search

/-!
# Filters

A filter is a condition on a column or a group of filters. A group may name the
combinator that joins its parts; a combinator between two parts rebinds it for
those that follow.
-/

set_option autoImplicit false

namespace Tabular

inductive Combinator where
  | and
  | or
deriving DecidableEq

namespace Combinator

def sql : Combinator → String
  | .and => "AND"
  | .or => "OR"

def read (s : String) : Except InputFault Combinator :=
  match Text.upper (Text.trimmed s) with
  | "AND" => .ok .and
  | "OR" => .ok .or
  | _ => .error (.combinator s)

end Combinator

inductive Operator where
  | eq
  | le
  | ge
  | lt
  | gt
  | ne
deriving DecidableEq

namespace Operator

def sql : Operator → String
  | .eq => "="
  | .le => "<="
  | .ge => ">="
  | .lt => "<"
  | .gt => ">"
  | .ne => "!="

def embedded : List Operator := [.le, .ge, .lt, .gt, .ne]

def occursIn (op : Operator) (raw : List Char) : Bool := Text.contains op.sql.toList raw

/-- The operator of a raw value, and the value without it: the first embedded operator
that occurs is taken out wherever it stands. -/
def extract (raw : String) : Operator × String :=
  match embedded.find? fun op => op.occursIn raw.toList with
  | some op => (op, String.ofList (Text.removeAll op.sql.toList raw.toList))
  | none => (.eq, raw)

end Operator

structure Condition where
  field : String
  value : String
deriving DecidableEq

mutual

inductive Filter where
  | leaf (condition : Condition)
  | group (explicit : Option Combinator) (entries : Filter.Entries)

inductive Filter.Entries where
  | nil
  | node (first : Filter) (rest : Filter.Entries)
  | logic (rebound : Combinator) (rest : Filter.Entries)

end

namespace Filter

def all : Filter := .group none .nil

instance : Inhabited Filter := ⟨all⟩

mutual

def leaves : Filter → List Condition
  | .leaf c => [c]
  | .group _ entries => entries.leaves

def Entries.leaves : Entries → List Condition
  | .nil => []
  | .node first rest => first.leaves ++ rest.leaves
  | .logic _ rest => rest.leaves

end

def leafCount (f : Filter) : Nat := f.leaves.length

def isEmpty (f : Filter) : Bool := f.leafCount == 0

end Filter
end Tabular
