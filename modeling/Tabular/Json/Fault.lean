import Tabular.Json.Printer
import Tabular.Text.Quoted

/-!
# Faults of JSON text

What is wrong with a text, and where: a failure keeps the text that was still
unread, and how many of its bytes had already been looked at.
-/

set_option autoImplicit false

namespace Tabular.Json

inductive Found where
  | null
  | bool (b : Bool)
  | number (n : Number)
  | text (s : String)
  | sequence
  | map

def Found.describe : Found → String
  | .null => "null"
  | .bool b => "boolean `" ++ (if b then "true" else "false") ++ "`"
  | .number (.int i) => "integer `" ++ Decimal.showInt i ++ "`"
  | .number (.real x) => "floating point `" ++ (Number.real x).print ++ "`"
  | .text s => "string " ++ Text.quoted s
  | .sequence => "sequence"
  | .map => "map"

inductive Fault where
  | expectedValue
  | expectedWord
  | expectedColon
  | expectedCommaOrBrace
  | expectedCommaOrBracket
  | nameNotText
  | trailingComma
  | trailingCharacters
  | invalidNumber
  | outOfRange
  | invalidEscape
  | loneSurrogate
  | escapeEnds
  | controlCharacter
  | tooDeep
  | valueEnds
  | textEnds
  | objectEnds
  | listEnds
  | wrongKind (found : Found) (expected : String)
  | wrongSign (i : Int) (expected : String)
  | repeated (field : String)
  | wrongLength (length : Nat) (expected : String)

def Fault.message : Fault → String
  | .expectedValue => "expected value"
  | .expectedWord => "expected ident"
  | .expectedColon => "expected `:`"
  | .expectedCommaOrBrace => "expected `,` or `\x7d`"
  | .expectedCommaOrBracket => "expected `,` or `]`"
  | .nameNotText => "key must be a string"
  | .trailingComma => "trailing comma"
  | .trailingCharacters => "trailing characters"
  | .invalidNumber => "invalid number"
  | .outOfRange => "number out of range"
  | .invalidEscape => "invalid escape"
  | .loneSurrogate => "lone leading surrogate in hex escape"
  | .escapeEnds => "unexpected end of hex escape"
  | .controlCharacter => "control character (\\u0000-\\u001F) found while parsing a string"
  | .tooDeep => "recursion limit exceeded"
  | .valueEnds => "EOF while parsing a value"
  | .textEnds => "EOF while parsing a string"
  | .objectEnds => "EOF while parsing an object"
  | .listEnds => "EOF while parsing a list"
  | .wrongKind found expected => "invalid type: " ++ found.describe ++ ", expected " ++ expected
  | .wrongSign i expected =>
    "invalid value: integer `" ++ Decimal.showInt i ++ "`, expected " ++ expected
  | .repeated field => "duplicate field `" ++ field ++ "`"
  | .wrongLength length expected =>
    "invalid length " ++ Decimal.showNat length ++ ", expected " ++ expected

structure Failure where
  fault : Fault
  unread : List Char
  seen : Nat

abbrev Reading (α : Type) := Except Failure (α × List Char)

def fail {α : Type} (fault : Fault) (unread : List Char) : Except Failure α :=
  .error ⟨fault, unread, 0⟩

def failNext {α : Type} (fault : Fault) (unread : List Char) : Except Failure α :=
  .error ⟨fault, unread, 1⟩

def byteCount (s : List Char) : Nat := s.foldl (fun n c => n + c.utf8Size) 0

def place (s : List Char) (bytes : Nat) : Nat × Nat :=
  let rec go (line column : Nat) : List Char → Nat → Nat × Nat
    | [], _ => (line, column)
    | c :: rest, left =>
      if left = 0 then (line, column)
      else if left < c.utf8Size then (line, column + left)
      else if c = '\n' then go (line + 1) 0 rest (left - c.utf8Size)
      else go line (column + c.utf8Size) rest (left - c.utf8Size)
  go 1 0 s bytes

def Failure.message (f : Failure) (s : List Char) : String :=
  let (line, column) := place s (byteCount s - byteCount f.unread + f.seen)
  f.fault.message ++ " at line " ++ Decimal.showNat line ++ " column " ++ Decimal.showNat column

end Tabular.Json
