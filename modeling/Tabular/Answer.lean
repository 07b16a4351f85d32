import Tabular.Json.Basic
import Tabular.Sql.Value
import Tabular.Text.Hex

/-!
# Answers

The answer to a statement: the rows it found, or how many it changed. The rows can
be taken one by one without being used up.
-/

set_option autoImplicit false

namespace Tabular

inductive Cell where
  | null
  | int (i : Int64)
  | real (x : Float)
  | text (s : String)

namespace Cell

def ofValue : Sql.Value → Cell
  | .null => .null
  | .int i => .int i
  | .real x => .real x
  | .text s => .text s
  | .rawText bytes | .blob bytes => .text (Text.hexBytes bytes)

def toJson : Cell → Json
  | .null => .null
  | .int i => .int i.toInt
  | .real x => .real x
  | .text s => .text s

def text? : Cell → Option String
  | .text s => some s
  | _ => none

end Cell

abbrev NamedRow := Record Cell

def NamedRow.entries : List String → List Sql.Value → List (String × Cell)
  | [], _ => []
  | name :: names, [] => (name, .null) :: entries names []
  | name :: names, v :: row => (name, .ofValue v) :: entries names row

def NamedRow.ofValues (columns : List String) (row : List Sql.Value) : NamedRow :=
  Record.ofList (NamedRow.entries columns row)

def NamedRow.toJson (row : NamedRow) : Json := .object (row.map fun e => (e.1, e.2.toJson))

structure Answer where
  rows : List NamedRow
  /-- The number of rows taken so far. -/
  position : Nat
  rowsAffected : Nat
  lastInsertId : Int64

namespace Answer

def empty : Answer := ⟨[], 0, 0, 0⟩

def ofRows (rows : List NamedRow) : Answer := { empty with rows }

def ofCounts (rowsAffected : Nat) (lastInsertId : Int64) : Answer :=
  { empty with rowsAffected, lastInsertId }

def rowCount (a : Answer) : Nat := a.rows.length

def next (a : Answer) : Option NamedRow × Answer :=
  match a.rows[a.position]? with
  | some row => (some row, { a with position := a.position + 1 })
  | none => (none, a)

def rewind (a : Answer) : Answer := { a with position := 0 }

def columns (a : Answer) : List String := (a.rows.head?.map Record.keys).getD []

end Answer
end Tabular
