import Tabular.Column
import Tabular.Input
import Tabular.Sql.Fault
import Tabular.Text.Quoted

/-!
# Errors of table access

Every operation on a database fails with one of nine kinds of error, each with a
code and a message.
-/

set_option autoImplicit false

namespace Tabular

inductive AddressFault where
  | unknownValue (value parameter : String)
  | unknownParameter (name : String)
  | notUtf8 (width : Option Nat) (index : Nat)
  | nulInPath
deriving DecidableEq

def AddressFault.message : AddressFault → String
  | .unknownValue value parameter =>
    "unknown value " ++ Text.quoted value ++ " for `" ++ parameter ++ "`"
  | .unknownParameter name =>
    "unknown query parameter `" ++ name ++ "` while parsing connection URL"
  | .notUtf8 (some width) index =>
    "invalid utf-8 sequence of " ++ Decimal.showNat width ++ " bytes from index " ++
      Decimal.showNat index
  | .notUtf8 none index => "incomplete utf-8 byte sequence from index " ++ Decimal.showNat index
  | .nulInPath => "filename passed to SQLite must not contain nul bytes"

inductive StoreError where
  | sql (fault : Sql.Fault)
  | address (fault : AddressFault)
  | parameter (name : String)
  | parameterName (name : String)
  | closed
deriving DecidableEq

def StoreError.message : StoreError → String
  | .sql fault =>
    "error returned from database: (code: " ++ Decimal.showNat fault.code ++ ") " ++ fault.message
  | .address .nulInPath => "error communicating with database: " ++ AddressFault.nulInPath.message
  | .address fault => "error with configuration: " ++ fault.message
  | .parameter name =>
    "encountered unexpected or invalid data: unsupported SQL parameter format: " ++ name
  | .parameterName name =>
    "encountered unexpected or invalid data: parameters with non-integer names are not " ++
      "currently supported: " ++ name
  | .closed => "attempted to communicate with a crashed background worker"

inductive AccessError where
  | connection (cause : StoreError)
  | schema (table reason : String)
  | unknownColumn (column : String)
  | prepare (cause : StoreError)
  | bindArity (expected values types : Nat)
  | invalidValue (index : Nat) (value : String) (expected : ColumnType)
  | exec (cause : StoreError)
  | timeout (seconds : Nat)
  | invalidInput (fault : InputFault)
deriving DecidableEq

namespace AccessError

def code : AccessError → Nat
  | .connection _ => 1
  | .schema .. => 2
  | .unknownColumn _ => 3
  | .prepare _ => 4
  | .bindArity .. => 5
  | .invalidValue .. => 6
  | .exec _ => 7
  | .timeout _ => 8
  | .invalidInput _ => 9

def kind : AccessError → String
  | .connection _ => "connection"
  | .schema .. => "schema"
  | .unknownColumn _ => "unknown_column"
  | .prepare _ => "prepare"
  | .bindArity .. => "bind_arity"
  | .invalidValue .. => "invalid_value"
  | .exec _ => "exec"
  | .timeout _ => "timeout"
  | .invalidInput _ => "invalid_input"

def message : AccessError → String
  | .connection cause => "Connection error: " ++ cause.message
  | .schema table reason => "Error getting table fields for " ++ table ++ ": " ++ reason
  | .unknownColumn column => "Unknown column: " ++ column
  | .prepare cause => "Failed to prepare request: " ++ cause.message
  | .bindArity expected values types =>
    "Failed to bind variables to query parameters: " ++ Decimal.showNat expected ++
      " placeholders, " ++ Decimal.showNat values ++ " values, " ++ Decimal.showNat types ++
      " type codes"
  | .invalidValue index value expected =>
    "Invalid " ++ expected.name ++ " value for parameter " ++ Decimal.showNat index ++ ": " ++
      Text.quoted value
  | .exec cause => "Failed to execute prepared request: " ++ cause.message
  | .timeout seconds => "Statement timed out after " ++ Decimal.showNat seconds ++ "s"
  | .invalidInput fault => "Invalid input: " ++ fault.message

end AccessError

structure ErrorRecord where
  message : String
  code : Nat
  kind : String
deriving DecidableEq

def AccessError.record (e : AccessError) : ErrorRecord := ⟨e.message, e.code, e.kind⟩

end Tabular
