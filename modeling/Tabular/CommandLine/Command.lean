import Tabular.Config.Settings
import Tabular.Error
import Tabular.Statement.Builder

/-!
# Commands

What a command line asks for, and the faults it can have.
-/

set_option autoImplicit false

namespace Tabular

inductive Command where
  | tables
  | hasTable (table : String)
  | columns (table : String)
  | get (table : String) (id : Int64)
  | list (table : String) (filter : Option String) (order : List SortKey)
      (select : List String) (limit : Nat)
  | add (table : String) (fields : List Field)
  | update (table : String) (id : Int64) (fields : List Field)
  | delete (table : String) (id : Int64)
  | query (sql : String)
deriving DecidableEq

structure Invocation where
  command : Command
  overrides : Config.Overrides
deriving DecidableEq

inductive CommandFault where
  | unknownArgument (written : String)
  | unknownCommand
  | missing (arguments : List String)
  | noCommand
  | nothing
  | notAValue (argument value : String)
  | malformed (argument value problem : String)
  | twice (argument : String)
  | surplus (argument value : String)
  | help
  | version
deriving DecidableEq

def CommandFault.exitCode : CommandFault → Nat
  | .help | .version => 0
  | _ => 2

def CommandFault.message : CommandFault → String
  | .unknownArgument written => "unexpected argument '" ++ written ++ "' found"
  | .unknownCommand => "unrecognized subcommand"
  | .missing arguments =>
    "the following required arguments were not provided: " ++ ", ".intercalate arguments
  | .noCommand | .nothing => "a subcommand is required"
  | .notAValue argument value => "invalid value '" ++ value ++ "' for '" ++ argument ++ "'"
  | .malformed argument value problem =>
    "invalid value '" ++ value ++ "' for '" ++ argument ++ "': " ++ problem
  | .twice argument => "the argument '" ++ argument ++ "' cannot be used multiple times"
  | .surplus argument value =>
    "unexpected value '" ++ value ++ "' for '" ++ argument ++ "' found; no more were expected"
  | .help => "one of: tables, exists, columns, get, list, add, update, delete, query"
  | .version => "megadb 1.0.0"

def Field.read? (s : String) : Option Field :=
  match Text.cut? ['='] s.toList with
  | none => none
  | some (column, value) =>
    if Text.trim column = [] then none
    else some (String.ofList (Text.trim column), String.ofList value)

end Tabular
