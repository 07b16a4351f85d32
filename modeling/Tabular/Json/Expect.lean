import Tabular.Json.Skip

/-!
# Reading values of an expected kind

A section of named fields is written as an object, in any order and with other
members between, or as the array of all its fields in the order of declaration.
-/

set_option autoImplicit false

namespace Tabular.Json

open Tabular.Decimal

def unexpected {α : Type} (expected : String) (s : List Char) : Except Failure α :=
  let wrong (found : Found) (rest : List Char) : Except Failure α :=
    fail (.wrongKind found expected) rest
  let ofNumber (n : Number) (rest : List Char) : Except Failure α := wrong (.number n) rest
  match s with
  | [] => failNext .valueEnds []
  | 'n' :: rest => (readWord () "ull".toList rest).bind fun r => wrong .null r.2
  | 't' :: rest => (readWord () "rue".toList rest).bind fun r => wrong (.bool true) r.2
  | 'f' :: rest => (readWord () "alse".toList rest).bind fun r => wrong (.bool false) r.2
  | '-' :: rest => (readNumber false rest).bind fun (n, rest) => ofNumber n rest
  | '"' :: rest => (readText rest).bind fun (t, rest) => wrong (.text t) rest
  | '[' :: _ => wrong .sequence s
  | '\x7b' :: _ => wrong .map s
  | c :: _ =>
    if isDigit c then (readNumber true s).bind fun (n, rest) => ofNumber n rest
    else failNext .expectedValue s

def expectText (s : List Char) : Reading String :=
  match skipSpace s with
  | '"' :: rest => readText rest
  | s => unexpected "a string" s

def expectBool (s : List Char) : Reading Bool :=
  match skipSpace s with
  | 't' :: rest => readWord true "rue".toList rest
  | 'f' :: rest => readWord false "alse".toList rest
  | s => unexpected "a boolean" s

def expectCount (s : List Char) : Reading Nat :=
  let checked : Number × List Char → Reading Nat
    | (.int i, rest) => if i < 0 then fail (.wrongSign i "u64") rest else .ok (i.toNat, rest)
    | (n, rest) => fail (.wrongKind (.number n) "u64") rest
  match skipSpace s with
  | '-' :: rest => (readNumber false rest).bind checked
  | c :: rest =>
    if isDigit c then (readNumber true (c :: rest)).bind checked else unexpected "u64" (c :: rest)
  | [] => failNext .valueEnds []

def expectOptional {α : Type} (item : List Char → Reading α) (s : List Char) : Reading (Option α) :=
  match skipSpace s with
  | 'n' :: rest => readWord none "ull".toList rest
  | s => (item s).map fun (v, rest) => (some v, rest)

structure Section (σ : Type) where
  title : String
  fields : List (String × (σ → List Char → Reading σ))
  other : String → σ → List Char → Reading σ

def Section.described {σ : Type} (sec : Section σ) : String := "struct " ++ sec.title

def Section.reader? {σ : Type} (sec : Section σ) (name : String) :
    Option (σ → List Char → Reading σ) :=
  (sec.fields.find? fun f => f.1 = name).map Prod.snd

def repeatedField {α : Type} (name : String) (s : List Char) : Except Failure α :=
  match skipSpace s with
  | '\x7d' :: rest => fail (.repeated name) rest
  | rest => fail (.repeated name) rest

def readSectionMembers {σ : Type} (sec : Section σ) :
    Nat → Bool → List String → σ → List Char → Reading σ
  | 0, _, _, _, s => fail .objectEnds s
  | fuel + 1, first, seen, v, s =>
    match nextName first s with
    | .error e => .error e
    | .ok (none, rest) => .ok (v, rest)
    | .ok (some r, _) =>
      match readText r with
      | .error e => .error e
      | .ok (name, rest) =>
        match sec.reader? name with
        | some read =>
          if seen.contains name then repeatedField name rest
          else
            match (readColon rest).bind (read v) with
            | .error e => .error e
            | .ok (v, rest) => readSectionMembers sec fuel false (name :: seen) v rest
        | none =>
          match (readColon rest).bind (sec.other name v) with
          | .error e => .error e
          | .ok (v, rest) => readSectionMembers sec fuel false seen v rest

def readSectionEnd {σ : Type} (v : σ) (s : List Char) : Reading σ :=
  match skipSpace s with
  | [] => failNext .listEnds []
  | ']' :: rest => .ok (v, rest)
  | ',' :: rest =>
    match skipSpace rest with
    | ']' :: r => failNext .trailingComma (']' :: r)
    | r => failNext .trailingCharacters r
  | rest => failNext .trailingCharacters rest

def readSectionItems {σ : Type} (length : Nat) (title : String) :
    Nat → List (String × (σ → List Char → Reading σ)) → σ → List Char → Reading σ
  | _, [], v, s => readSectionEnd v s
  | index, (_, read) :: fields, v, s =>
    let short (rest : List Char) : Reading σ :=
      fail (.wrongLength index
        ("struct " ++ title ++ " with " ++ showNat length ++ " elements")) rest
    match skipSpace s with
    | [] => failNext .listEnds []
    | ']' :: rest => short rest
    | c :: rest =>
      if index = 0 then
        match read v (c :: rest) with
        | .error e => .error e
        | .ok (v, rest) => readSectionItems length title 1 fields v rest
      else if c ≠ ',' then failNext .expectedCommaOrBracket (c :: rest)
      else
        match skipSpace rest with
        | [] => failNext .valueEnds []
        | ']' :: r => failNext .trailingComma (']' :: r)
        | r =>
          match read v r with
          | .error e => .error e
          | .ok (v, rest) => readSectionItems length title (index + 1) fields v rest

def expectSection {σ : Type} (sec : Section σ) (v : σ) (s : List Char) : Reading σ :=
  match skipSpace s with
  | '\x7b' :: rest => readSectionMembers sec (rest.length + 1) true [] v rest
  | '[' :: rest => readSectionItems sec.fields.length sec.title 0 sec.fields v rest
  | s => unexpected sec.described s

def expectObject {σ : Type} (sec : Section σ) (v : σ) (s : List Char) : Reading σ :=
  match skipSpace s with
  | '\x7b' :: rest => readSectionMembers sec (rest.length + 1) true [] v rest
  | s => unexpected sec.described s

end Tabular.Json
