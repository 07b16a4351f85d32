import Tabular.Text.Search

/-!
# Patterns

Two kinds of patterns: one in which a percent sign stands for any text and an
underscore for any character, and one with stars, question marks and sets.
-/

set_option autoImplicit false

namespace Tabular.Sql.Pattern

def foldCase (c : Char) : Char := c.toLower

def suffixes : List Char → List (List Char)
  | [] => [[]]
  | c :: s => (c :: s) :: suffixes s

def likeFrom (escape : Option Char) : Bool → List Char → List Char → Bool
  | escaped, [], s => !escaped && s = []
  | true, p :: ps, s =>
    match s with
    | [] => false
    | c :: cs => foldCase p = foldCase c && likeFrom escape false ps cs
  | false, p :: ps, s =>
    if escape = some p then likeFrom escape true ps s
    else if p = '%' then (suffixes s).any fun t => likeFrom escape false ps t
    else
      match s with
      | [] => false
      | c :: cs => (p = '_' || foldCase p = foldCase c) && likeFrom escape false ps cs

def like (escape : Option Char) (pattern text : List Char) : Bool :=
  likeFrom escape false pattern text

def setOf : List Char → List Char → Option (List Char × List Char)
  | acc, ']' :: rest => if acc = [] then setOf [']'] rest else some (acc.reverse, rest)
  | acc, c :: rest => setOf (c :: acc) rest
  | _, [] => none

def inSet (c : Char) : List Char → Bool
  | a :: '-' :: b :: rest => (a ≤ c && c ≤ b) || inSet c rest
  | a :: rest => a = c || inSet c rest
  | [] => false

def glob : Nat → List Char → List Char → Bool
  | 0, _, _ => false
  | _ + 1, [], s => s = []
  | fuel + 1, p :: ps, s =>
    if p = '*' then (suffixes s).any fun t => glob fuel ps t
    else
      match s with
      | [] => false
      | c :: cs =>
        if p = '?' then glob fuel ps cs
        else if p = '[' then
          let (negated, rest) := match ps with
            | '^' :: rest => (true, rest)
            | rest => (false, rest)
          match setOf [] rest with
          | some (set, rest) => (inSet c set != negated) && glob fuel rest cs
          | none => false
        else p = c && glob fuel ps cs

end Tabular.Sql.Pattern
