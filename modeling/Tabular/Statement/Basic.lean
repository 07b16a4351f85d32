import Tabular.Column

/-!
# Statements with bound values

A statement text together with the values for its placeholders and the types as
which they are bound.
-/

set_option autoImplicit false

namespace Tabular

structure Statement where
  sql : String
  values : List String
  types : List ColumnType
deriving DecidableEq

namespace Statement

def ofText (sql : String) : Statement := ⟨sql, [], []⟩

def bind (s : Statement) (value : String) (type : ColumnType) : Statement :=
  { s with values := s.values ++ [value], types := s.types ++ [type] }

end Statement
end Tabular
