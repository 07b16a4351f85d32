import Tabular.CommandLine.Command

/-!
# Arguments of commands

An argument is an option with a value or stands by its place alone. Its kind says
which values it takes.
-/

set_option autoImplicit false

namespace Tabular.CommandLine

inductive Kind where
  | text
  | path
  | truth
  | timeout
  | id
  | limit
  | sortKey
  | field
deriving DecidableEq

structure Argument where
  label : String
  long : Option String
  short : Option Char
  kind : Kind
  many : Bool
deriving DecidableEq

inductive Value where
  | text (s : String)
  | whole (i : Int)
  | truth (b : Bool)
  | sortKey (k : SortKey)
  | field (f : Field)

namespace Argument

def isOption (a : Argument) : Bool := a.long.isSome

def usage (a : Argument) : String :=
  match a.long with
  | some long => "--" ++ long ++ " <" ++ a.label ++ ">"
  | none => "<" ++ a.label ++ ">" ++ (if a.many then "..." else "")

def limitMost : Int := 4294967295

def readWhole (a : Argument) (s : String) : Except CommandFault Int :=
  match Decimal.whole Decimal.leastInt Decimal.mostInt s.toList with
  | .ok i => .ok i
  | .error e => .error (.malformed a.usage s e.message)

def readTimeout (a : Argument) (s : String) : Except CommandFault Int :=
  match Decimal.whole 0 Decimal.mostWord (Text.trim s.toList) with
  | .ok i =>
    if i = 0 then .error (.malformed a.usage s "Statement timeout must be at least 1 second")
    else .ok i
  | .error _ => .error (.malformed a.usage s ("Invalid timeout '" ++ s ++ "'. Use whole seconds"))

def read (a : Argument) (s : String) : Except CommandFault Value :=
  match a.kind with
  | .text => .ok (.text s)
  | .path => if s.isEmpty then .error (.notAValue a.usage s) else .ok (.text s)
  | .truth =>
    match s with
    | "true" => .ok (.truth true)
    | "false" => .ok (.truth false)
    | _ => .error (.notAValue a.usage s)
  | .timeout => (a.readTimeout s).map .whole
  | .id => (a.readWhole s).map .whole
  | .limit => do
    let i ← a.readWhole s
    if 0 ≤ i ∧ i ≤ limitMost then .ok (.whole i)
    else .error (.malformed a.usage s
      (Decimal.showInt i ++ " is not in 0..=" ++ Decimal.showInt limitMost))
  | .sortKey =>
    match SortKey.read s with
    | .ok k => .ok (.sortKey k)
    | .error fault => .error (.malformed a.usage s (AccessError.invalidInput fault).message)
  | .field =>
    match Field.read? s with
    | some f => .ok (.field f)
    | none => .error (.malformed a.usage s ("Invalid field '" ++ s ++ "'. Use column=value"))

end Argument

def place (label : String) (kind : Kind) (many : Bool) : Argument := ⟨label, none, none, kind, many⟩

def option (label long : String) (short : Option Char) (kind : Kind) (many : Bool) : Argument :=
  ⟨label, some long, short, kind, many⟩

def settings : List (Argument × String) := [
  (option "DATABASE_URL" "database-url" (some 'd') .text false, "MEGADB_DATABASE_URL"),
  (option "CONFIG" "config" (some 'c') .path false, "MEGADB_CONFIG"),
  (option "STATEMENT_TIMEOUT" "statement-timeout" none .timeout false,
    "MEGADB_STATEMENT_TIMEOUT_SECS"),
  (option "SCHEMA_CACHE" "schema-cache" none .truth false, "MEGADB_SCHEMA_CACHE")]

structure Form where
  name : String
  places : List Argument
  options : List Argument

def table : Argument := place "TABLE" .text false

def id : Argument := place "ID" .id false

def fields : Argument := place "FIELDS" .field true

def forms : List Form := [
  ⟨"tables", [], []⟩,
  ⟨"exists", [table], []⟩,
  ⟨"columns", [table], []⟩,
  ⟨"get", [table, id], []⟩,
  ⟨"list", [table],
    [option "FILTER" "filter" (some 'f') .text false,
      option "ORDER" "order" (some 'o') .sortKey true,
      option "SELECT" "select" (some 's') .text true,
      option "LIMIT" "limit" (some 'l') .limit false]⟩,
  ⟨"add", [table, fields], []⟩,
  ⟨"update", [table, id, fields], []⟩,
  ⟨"delete", [table, id], []⟩,
  ⟨"query", [place "SQL" .text false], []⟩]

def form? (name : String) : Option Form := forms.find? fun f => f.name = name

end Tabular.CommandLine
