import Tabular.CommandLine.Reading
import Tabular.Files

/-!
# Variables from a file

A file of variables has a name and a value on each line. Values may be quoted,
may span lines inside quotes, and may refer to other variables after a dollar
sign. A variable that is already set keeps its value.
-/

set_option autoImplicit false

namespace Tabular.CommandLine

open Tabular.Text

inductive LineState where
  | plain
  | escaped
  | single
  | singleEscaped
  | double
  | doubleEscaped
  | space
deriving DecidableEq

def LineState.next (state : LineState) (c : Char) : Option LineState :=
  let opened : LineState :=
    if c = '\\' then .escaped
    else if c = '"' then .double
    else if c = '\'' then .single
    else .plain
  match state with
  | .space => if c = '#' then none else some opened
  | .escaped => some .plain
  | .plain => some (if isBlank c && c ≠ '\n' && c ≠ '\r' then .space else opened)
  | .double => some (if c = '\\' then .doubleEscaped else if c = '"' then .plain else .double)
  | .doubleEscaped => some .double
  | .single => some (if c = '\\' then .singleEscaped else if c = '\'' then .plain else .single)
  | .singleEscaped => some .single

def scanLine : LineState → List Char → List Char × Option LineState
  | state, [] => ([], some state)
  | state, c :: s =>
    match state.next c with
    | none => ([], none)
    | some state =>
      let (front, last) := scanLine state s
      (c :: front, last)

def linesWithEnds : List Char → List (List Char)
  | [] => []
  | c :: s =>
    if c = '\n' then [c] :: linesWithEnds s
    else match linesWithEnds s with
      | [] => [[c]]
      | line :: lines => (c :: line) :: lines

def withoutEnd (line : List Char) : List Char :=
  match line.reverse with
  | '\n' :: '\r' :: r => r.reverse
  | '\n' :: r => r.reverse
  | _ => line

/-- The lines of a file, those joined that quotes or a backslash keep together: none
at the end stands for a line that is never closed. -/
def logicalLines : List Char → LineState → List (List Char) → List (Option (List Char))
  | _, state, [] => if state = .plain then [] else [none]
  | front, state, line :: rest =>
    let whole := front ++ line
    if (trimStart whole).head? = some '#' then some [] :: logicalLines [] .plain rest
    else
      match scanLine state line with
      | (part, none) => some (front ++ part) :: logicalLines [] .plain rest
      | (_, some .plain) | (_, some .space) =>
        some (withoutEnd whole) :: logicalLines [] .plain rest
      | (_, some state) => logicalLines whole state rest

def isNameChar (c : Char) : Bool :=
  c.isAlphanum ||
    (0xC0 ≤ c.toNat && c.toNat ≠ 0xD7 && c.toNat ≠ 0xF7 && !isBlank c &&
      !(0x2000 ≤ c.toNat && c.toNat ≤ 0x2BFF) && !(0x3000 ≤ c.toNat && c.toNat ≤ 0x3004) &&
      !(0x3008 ≤ c.toNat && c.toNat ≤ 0x3020) && !(0xD800 ≤ c.toNat && c.toNat ≤ 0xF8FF) &&
      !(0xFE00 ≤ c.toNat && c.toNat ≤ 0xFE6F) && !(0x1F000 ≤ c.toNat && c.toNat ≤ 0x1FAFF))

inductive Reference where
  | none
  | bare (name : List Char)
  | braced (name : List Char)

structure ValueState where
  out : List Char
  single : Bool
  double : Bool
  escaped : Bool
  ending : Bool
  reference : Reference

def referred (vars given : Variables) (name : List Char) : List Char :=
  ((lookup? vars (String.ofList name)).getD
    ((lookup? given (String.ofList name)).getD "")).toList

def escapedChar? (c : Char) : Option Char :=
  if c = 'n' then some '\n'
  else if "\\'\"$ ".toList.contains c then some c
  else none

def ValueState.plainStep (st : ValueState) (c : Char) : ValueState :=
  if c = '$' then { st with reference := .bare [] }
  else if c = '"' then { st with double := !st.double }
  else if c = '\\' then { st with escaped := true }
  else if st.double then { st with out := c :: st.out }
  else if c = '\'' then { st with single := true }
  else if c = ' ' ∨ c = '\t' then { st with ending := true }
  else { st with out := c :: st.out }

def ValueState.finish (vars given : Variables) (st : ValueState) : Option (List Char) :=
  match st.reference with
  | .braced _ => none
  | .bare name =>
    if st.single ∨ st.double then none
    else some (((referred vars given name).reverse ++ st.out).reverse)
  | .none => if st.single ∨ st.double then none else some st.out.reverse

def readValue (vars given : Variables) : ValueState → List Char → Option (List Char)
  | st, [] => st.finish vars given
  | st, c :: s =>
    if st.ending then
      if c = ' ' ∨ c = '\t' then readValue vars given st s
      else if c = '#' then st.finish vars given
      else none
    else if st.escaped then
      match escapedChar? c with
      | some d => readValue vars given { st with out := d :: st.out, escaped := false } s
      | none => none
    else if st.single then
      if c = '\'' then readValue vars given { st with single := false } s
      else readValue vars given { st with out := c :: st.out } s
    else
      match st.reference with
      | .none => readValue vars given (st.plainStep c) s
      | .bare name =>
        if isNameChar c then readValue vars given { st with reference := .bare (name ++ [c]) } s
        else if c = '\x7b' ∧ name = [] then
          readValue vars given { st with reference := .braced [] } s
        else
          let out := (referred vars given name).reverse ++ st.out
          if c = '$' then readValue vars given { st with out := out, reference := .bare [] } s
          else readValue vars given { st with out := c :: out, reference := .none } s
      | .braced name =>
        if c = '\x7d' then
          readValue vars given
            { st with out := (referred vars given name).reverse ++ st.out, reference := .none } s
        else readValue vars given { st with reference := .braced (name ++ [c]) } s

def nameStart (c : Char) : Bool := c.isAlpha || c = '_'

def namePart (c : Char) : Bool := c.isAlphanum || c = '_' || c = '.'

def readName (s : List Char) : Option (List Char × List Char) :=
  match s with
  | c :: _ => if nameStart c then some (s.takeWhile namePart, s.dropWhile namePart) else none
  | [] => none

def afterEquals (s : List Char) : Option (List Char) := after? ['='] (trimStart s)

def readAssignment (s : List Char) : Option (List Char × List Char) :=
  match readName s with
  | none => none
  | some (name, rest) =>
    match afterEquals rest with
    | some value => some (name, value)
    | none =>
      if name ≠ "export".toList then none
      else
        match readName (trimStart rest) with
        | none => none
        | some (name, rest) => (afterEquals rest).map fun value => (name, value)

def readLine (vars given : Variables) (line : List Char) : Option (Option (String × String)) :=
  let s := trimStart (trimEnd line)
  if s = [] ∨ s.head? = some '#' then some none
  else
    match readAssignment s with
    | none => none
    | some (name, text) =>
      let text := trimStart text
      if text = [] ∨ text.head? = some '#' then some (some (String.ofList name, ""))
      else (readValue vars given ⟨[], false, false, false, false, .none⟩ text).map fun v =>
        some (String.ofList name, String.ofList v)

def assign (vars given : Variables) : List (Option (List Char)) → Variables
  | [] => vars
  | none :: _ => vars
  | some line :: rest =>
    match readLine vars given line with
    | none => vars
    | some none => assign vars given rest
    | some (some (name, value)) =>
      let vars := if (lookup? vars name).isSome then vars else vars ++ [(name, value)]
      assign vars ((name, value) :: given) rest

def fileLines (content : String) : List (Option (List Char)) :=
  let s := match content.toList with
    | '\ufeff' :: s => s
    | s => s
  logicalLines [] .plain (linesWithEnds s)

def withFile (vars : Variables) (content : String) : Variables :=
  assign vars [] (fileLines content)

def variableFile? {α : Type} (files : Files α) : Nat → Files.Place → Option String
  | 0, _ => none
  | fuel + 1, folder =>
    match files.at? (folder ++ [".env"]) with
    | some (.text content) => some content
    | some (.data _) => none
    | _ => if folder = [] then none else variableFile? files fuel folder.dropLast

def allVariables {α : Type} (files : Files α) (vars : Variables) : Variables :=
  match variableFile? files (files.current.length + 1) files.current with
  | some content => withFile vars content
  | none => vars

end Tabular.CommandLine
