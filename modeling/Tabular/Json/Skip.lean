import Tabular.Json.Reader

/-!
# Passing over JSON values

A value that nobody asks for is only checked as far as needed to find its end:
it may nest to any depth, and its numbers and escapes need not stand for anything.
-/

set_option autoImplicit false

namespace Tabular.Json

open Tabular.Decimal

abbrev Skipping := Except Failure (List Char)

def skipText : Nat → List Char → Skipping
  | 0, s => fail .textEnds s
  | _ + 1, [] => fail .textEnds []
  | fuel + 1, c :: s =>
    if c = '"' then .ok s
    else if c = '\\' then
      match s with
      | [] => fail .textEnds []
      | 'u' :: s => (readUnit s).bind fun (_, s) => skipText fuel s
      | d :: s =>
        if "\"\\/bfnrt".toList.contains d then skipText fuel s
        else failNext .invalidEscape (d :: s)
    else if c.toNat < 0x20 then fail .controlCharacter (c :: s)
    else skipText fuel s

def skipPower (s : List Char) : Skipping :=
  let s := match s with
    | '+' :: s | '-' :: s => s
    | s => s
  match s with
  | [] => fail .invalidNumber []
  | c :: rest =>
    if isDigit c then .ok (rest.dropWhile isDigit) else failNext .invalidNumber (c :: rest)

def skipFraction (s : List Char) : Skipping :=
  match s with
  | '.' :: s =>
    match s.dropWhile isDigit with
    | rest =>
      if rest.length = s.length then failNext .invalidNumber s
      else match rest with
        | 'e' :: r | 'E' :: r => skipPower r
        | _ => .ok rest
  | 'e' :: s | 'E' :: s => skipPower s
  | _ => .ok s

def skipNumber (s : List Char) : Skipping :=
  match s with
  | [] => fail .invalidNumber []
  | '0' :: rest =>
    match rest with
    | c :: _ => if isDigit c then failNext .invalidNumber rest else skipFraction rest
    | [] => .ok []
  | c :: rest =>
    if isDigit c then skipFraction (rest.dropWhile isDigit)
    else failNext .invalidNumber (c :: rest)

inductive Bracket where
  | list
  | object
deriving DecidableEq

def Bracket.ends : Bracket → Fault
  | .list => .listEnds
  | .object => .objectEnds

def Bracket.separator : Bracket → Fault
  | .list => .expectedCommaOrBracket
  | .object => .expectedCommaOrBrace

def skipName (s : List Char) : Skipping :=
  match skipSpace s with
  | [] => failNext .objectEnds []
  | '"' :: rest => (skipText (rest.length + 1) rest).bind readColon
  | rest => failNext .nameNotText rest

def skipClosing (comma : Bool) (s : List Char) :
    List Bracket → Except Failure (List Bracket × List Char)
  | [] => .ok ([], s)
  | b :: outer =>
    match skipSpace s with
    | [] => failNext b.ends []
    | c :: rest =>
      if c = ',' ∧ comma then
        match b with
        | .list => .ok (b :: outer, rest)
        | .object => (skipName rest).map fun s => (b :: outer, s)
      else if (c = ']' ∧ b = .list) ∨ (c = '\x7d' ∧ b = .object) then skipClosing true rest outer
      else if comma then failNext b.separator (c :: rest)
      else
        match b with
        | .list => .ok (b :: outer, c :: rest)
        | .object => (skipName (c :: rest)).map fun s => (b :: outer, s)

def skipWithin : Nat → List Bracket → List Char → Skipping
  | 0, _, s => fail .valueEnds s
  | fuel + 1, opened, s =>
    let next (comma : Bool) (opened : List Bracket) (rest : List Char) : Skipping :=
      match skipClosing comma rest opened with
      | .error e => .error e
      | .ok ([], rest) => .ok rest
      | .ok (opened, rest) => skipWithin fuel opened rest
    match skipSpace s with
    | [] => failNext .valueEnds []
    | 'n' :: rest => (readWord () "ull".toList rest).bind fun r => next true opened r.2
    | 't' :: rest => (readWord () "rue".toList rest).bind fun r => next true opened r.2
    | 'f' :: rest => (readWord () "alse".toList rest).bind fun r => next true opened r.2
    | '-' :: rest => (skipNumber rest).bind (next true opened)
    | '"' :: rest => (skipText (rest.length + 1) rest).bind (next true opened)
    | '[' :: rest => next false (.list :: opened) rest
    | '\x7b' :: rest => next false (.object :: opened) rest
    | c :: rest =>
      if isDigit c then (skipNumber (c :: rest)).bind (next true opened)
      else failNext .expectedValue (c :: rest)

def skipValue (s : List Char) : Skipping := skipWithin (s.length + 1) [] s

end Tabular.Json
