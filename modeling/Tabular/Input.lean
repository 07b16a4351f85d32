import Tabular.Decimal.Basic

/-!
# Faults of input

What callers can get wrong before a database is asked anything.
-/

set_option autoImplicit false

namespace Tabular

inductive InputFault where
  | tableName (name : String)
  | noFields
  | combinator (written : String)
  | direction (written : String)
  | order (written : String)
  | zeroTimeout
  | filterTooLong (limit : Nat)
  | filterText (problem : String)
  | filterNotObject
  | filterTooDeep (limit : Nat)
  | filterLogic
  | filterTooMany (limit : Nat)
  | filterValue (field : String)
  | other (problem : String)
deriving DecidableEq

def InputFault.message : InputFault → String
  | .tableName name => "Invalid table name '" ++ name ++ "'"
  | .noFields => "No fields given"
  | .combinator written =>
    "Invalid combinator '" ++ written ++ "'. Valid options: AND, OR"
  | .direction written =>
    "Invalid sort direction '" ++ written ++ "'. Valid options: asc, desc"
  | .order written =>
    "Invalid order '" ++ written ++ "'. Use 'column', 'column:asc' or 'column:desc'"
  | .zeroTimeout => "statement_timeout_secs must be at least 1"
  | .filterTooLong limit =>
    "Filter JSON exceeds maximum size of " ++ Decimal.showNat limit ++ " bytes"
  | .filterText problem => "Invalid filter JSON: " ++ problem
  | .filterNotObject => "Filter must be a JSON object"
  | .filterTooDeep limit =>
    "Filter nesting exceeds maximum depth of " ++ Decimal.showNat limit
  | .filterLogic => "LOGIC must be \"AND\" or \"OR\""
  | .filterTooMany limit => "Maximum " ++ Decimal.showNat limit ++ " filter conditions allowed"
  | .filterValue field => "Unsupported value for filter field '" ++ field ++ "'"
  | .other problem => problem

end Tabular
