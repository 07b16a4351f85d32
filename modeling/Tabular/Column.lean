import Tabular.Text.Blank
import Tabular.Text.Search

/-!
# Column types

How the values of a column are bound, judged by the type the column was declared
with, and the types of the columns of a table.
-/

set_option autoImplicit false

namespace Tabular

inductive ColumnType where
  | integer
  | float
  | string
deriving DecidableEq

namespace ColumnType

def mentions (word : String) (declared : String) : Bool :=
  Text.contains word.toList (Text.lower declared).toList

def ofDeclared (declared : String) : ColumnType :=
  if mentions "float" declared || mentions "double" declared then .float
  else if mentions "int" declared then .integer
  else .string

def code : ColumnType → Char
  | .integer => 'i'
  | .float => 'd'
  | .string => 's'

def name : ColumnType → String
  | .integer => "integer"
  | .float => "float"
  | .string => "string"

def codes (types : List ColumnType) : String := String.ofList (types.map code)

end ColumnType

structure ColumnTypes where
  columns : List (String × ColumnType)
deriving DecidableEq

namespace ColumnTypes

def get? (types : ColumnTypes) (column : String) : Option ColumnType :=
  (types.columns.find? fun c => c.1 = column).map Prod.snd

def contains (types : ColumnTypes) (column : String) : Bool := (types.get? column).isSome

def names (types : ColumnTypes) : List String := types.columns.map Prod.fst

def types (types : ColumnTypes) : List ColumnType := types.columns.map Prod.snd

def size (types : ColumnTypes) : Nat := types.columns.length

end ColumnTypes
end Tabular
