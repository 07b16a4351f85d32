import Tabular.Text.Blank
import Tabular.Text.Search

/-!
# Statements that define the schema

A statement text is taken for one by its first word, past white space and comments.
-/

set_option autoImplicit false

namespace Tabular.Definition

open Tabular.Text

/-- A text after one comment at its start: a line comment with its line end, or a
block comment with its closing mark. An unclosed comment is the whole text. -/
def comment? (s : List Char) : Option (List Char) :=
  match s with
  | '-' :: '-' :: rest => some (match cut? ['\n'] rest with | some (_, r) => r | none => [])
  | '/' :: '*' :: rest => some (match cut? ['*', '/'] rest with | some (_, r) => r | none => [])
  | _ => none

def skipLeading : Nat → List Char → List Char
  | 0, s => trimStart s
  | fuel + 1, s =>
    match comment? (trimStart s) with
    | some rest => skipLeading fuel rest
    | none => trimStart s

def firstWord (s : List Char) : List Char :=
  (skipLeading s.length s).takeWhile fun c => !isBlank c && c ≠ '('

def keywords : List (List Char) := ["CREATE".toList, "ALTER".toList, "DROP".toList]

def definesSchema (sql : String) : Bool :=
  keywords.contains ((firstWord sql.toList).map Char.toUpper)

end Tabular.Definition
