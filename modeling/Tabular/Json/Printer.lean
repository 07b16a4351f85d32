import Tabular.Decimal.Shortest
import Tabular.Json.Basic
import Tabular.Text.Hex

/-!
# JSON text

The compact form has no white space; the spread form has one member or item a
line, indented by two blanks a level.
-/

set_option autoImplicit false

namespace Tabular.Json

open Tabular.Text

def numberLayout : Decimal.Layout := ⟨-5, 16, 1, false⟩

def Number.print : Number → String
  | .int i => Decimal.showInt i
  | .real x => Decimal.signed x (Decimal.layout numberLayout (Decimal.shortest x))

def escapedChar (c : Char) : List Char :=
  if c = '"' then ['\\', '"']
  else if c = '\\' then ['\\', '\\']
  else if c = '\n' then ['\\', 'n']
  else if c = '\r' then ['\\', 'r']
  else if c = '\t' then ['\\', 't']
  else if c.toNat = 8 then ['\\', 'b']
  else if c.toNat = 12 then ['\\', 'f']
  else if c.toNat < 0x20 then
    ['\\', 'u', '0', '0', hexDigit (c.toNat / 16), hexDigit (c.toNat % 16)]
  else [c]

def textLiteral (s : String) : List Char := '"' :: s.toList.flatMap escapedChar ++ ['"']

def joined (sep : List Char) (parts : List (List Char)) : List Char :=
  (parts.intersperse sep).flatten

mutual

def compact : Json → List Char
  | .null => "null".toList
  | .bool b => (if b then "true" else "false").toList
  | .number n => n.print.toList
  | .text s => textLiteral s
  | .array items => '[' :: joined [','] (compactItems items) ++ [']']
  | .object members => '\x7b' :: joined [','] (compactMembers members) ++ ['\x7d']

def compactItems : List Json → List (List Char)
  | [] => []
  | j :: rest => compact j :: compactItems rest

def compactMembers : List (String × Json) → List (List Char)
  | [] => []
  | (name, j) :: rest => (textLiteral name ++ ':' :: compact j) :: compactMembers rest

end

def newline (level : Nat) : List Char := '\n' :: List.replicate (2 * level) ' '

def spreadOut (level : Nat) (opening closing : Char) (parts : List (List Char)) : List Char :=
  if parts.isEmpty then [opening, closing]
  else opening :: newline (level + 1) ++ joined (',' :: newline (level + 1)) parts ++
    newline level ++ [closing]

mutual

def spread (level : Nat) : Json → List Char
  | .array items => spreadOut level '[' ']' (spreadItems (level + 1) items)
  | .object members => spreadOut level '\x7b' '\x7d' (spreadMembers (level + 1) members)
  | .null => "null".toList
  | .bool b => (if b then "true" else "false").toList
  | .number n => n.print.toList
  | .text s => textLiteral s

def spreadItems (level : Nat) : List Json → List (List Char)
  | [] => []
  | j :: rest => spread level j :: spreadItems level rest

def spreadMembers (level : Nat) : List (String × Json) → List (List Char)
  | [] => []
  | (name, j) :: rest =>
    (textLiteral name ++ ':' :: ' ' :: spread level j) :: spreadMembers level rest

end

def toCompact (j : Json) : String := String.ofList (compact j)

def toSpread (j : Json) : String := String.ofList (spread 0 j)

end Tabular.Json
