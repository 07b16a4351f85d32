import Tabular.Text.Blank
import Tabular.Text.Search
import Tabular.Input

/-!
# Sort keys

A sort key is written as a column, or as a column and a direction with a colon
between them.
-/

set_option autoImplicit false

namespace Tabular

inductive Direction where
  | ascending
  | descending
deriving DecidableEq

namespace Direction

def sql : Direction → String
  | .ascending => "ASC"
  | .descending => "DESC"

def read (s : String) : Except InputFault Direction :=
  match Text.lower (Text.trimmed s) with
  | "asc" => .ok .ascending
  | "desc" => .ok .descending
  | _ => .error (.direction s)

end Direction

structure SortKey where
  column : String
  direction : Direction
deriving DecidableEq

namespace SortKey

def sql (k : SortKey) : String := k.column ++ " " ++ k.direction.sql

def read (s : String) : Except InputFault SortKey :=
  match (Text.splitAll ':' s.toList).map String.ofList with
  | [column] =>
    if Text.blank column then .error (.order s) else .ok ⟨Text.trimmed column, .ascending⟩
  | [column, direction] =>
    if Text.blank column then .error (.order s)
    else (Direction.read direction).map fun d => ⟨Text.trimmed column, d⟩
  | _ => .error (.order s)

end SortKey
end Tabular
