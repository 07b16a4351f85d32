import Tabular.Decimal.Reading
import Tabular.Json.Fault

/-!
# Reading JSON text

White space is blank, tab and the two line ends. Values nest to a bounded depth,
and the names of an object are kept in the order of the text.
-/

set_option autoImplicit false

namespace Tabular.Json

open Tabular.Decimal Tabular.Text

def isSpace (c : Char) : Bool := c = ' ' || c = '\t' || c = '\n' || c = '\r'

def skipSpace (s : List Char) : List Char := s.dropWhile isSpace

def readWord {α : Type} (v : α) : List Char → List Char → Reading α
  | [], s => .ok (v, s)
  | _ :: _, [] => fail .valueEnds []
  | w :: ws, c :: s => if w = c then readWord v ws s else failNext .expectedWord (c :: s)

def readUnit (s : List Char) : Reading Nat :=
  match s with
  | a :: b :: c :: d :: rest =>
    match hexDigit? a, hexDigit? b, hexDigit? c, hexDigit? d with
    | some a, some b, some c, some d => .ok (((a * 16 + b) * 16 + c) * 16 + d, rest)
    | _, _, _, _ => .error ⟨.invalidEscape, s, 4⟩
  | _ => if byteCount s < 4 then fail .textEnds [] else .error ⟨.invalidEscape, s, 4⟩

def readLowHalf (high : Nat) (s : List Char) : Reading Char :=
  match s with
  | [] => failNext .textEnds []
  | '\\' :: [] => failNext .textEnds []
  | '\\' :: 'u' :: rest =>
    match readUnit rest with
    | .error e => .error e
    | .ok (low, rest) =>
      if low < 0xDC00 ∨ 0xDFFF < low then fail .loneSurrogate rest
      else .ok (Char.ofNat ((high - 0xD800) * 0x400 + (low - 0xDC00) + 0x10000), rest)
  | '\\' :: rest => failNext .escapeEnds rest
  | rest => failNext .escapeEnds rest

def readEscape (s : List Char) : Reading Char :=
  match s with
  | [] => fail .textEnds []
  | '"' :: s => .ok ('"', s)
  | '\\' :: s => .ok ('\\', s)
  | '/' :: s => .ok ('/', s)
  | 'b' :: s => .ok ('\x08', s)
  | 'f' :: s => .ok ('\x0c', s)
  | 'n' :: s => .ok ('\n', s)
  | 'r' :: s => .ok ('\r', s)
  | 't' :: s => .ok ('\t', s)
  | 'u' :: s =>
    match readUnit s with
    | .error e => .error e
    | .ok (n, s) =>
      if 0xDC00 ≤ n ∧ n ≤ 0xDFFF then fail .loneSurrogate s
      else if 0xD800 ≤ n ∧ n ≤ 0xDBFF then readLowHalf n s
      else .ok (Char.ofNat n, s)
  | s => failNext .invalidEscape s

def readChars : Nat → List Char → List Char → Reading (List Char)
  | 0, _, s => fail .textEnds s
  | _ + 1, _, [] => fail .textEnds []
  | fuel + 1, acc, c :: s =>
    if c = '"' then .ok (acc.reverse, s)
    else if c = '\\' then
      match readEscape s with
      | .error e => .error e
      | .ok (d, s) => readChars fuel (d :: acc) s
    else if c.toNat < 0x20 then fail .controlCharacter s
    else readChars fuel (c :: acc) s

def readText (s : List Char) : Reading String :=
  (readChars (s.length + 1) [] s).map fun (cs, rest) => (String.ofList cs, rest)

def scaled : Nat → Float → Int → Option Float
  | 0, x, _ => some x
  | fuel + 1, x, e =>
    if e.natAbs ≤ 308 then
      let y := if 0 ≤ e then x * nearest 1 e else x / nearest 1 (-e)
      if y.isInf then none else some y
    else if x == 0 then some x
    else if 0 ≤ e then none
    else scaled fuel (x / nearest 1 308) (e + 308)

def significand (s : List Char) (acc : Nat) : Nat × Nat × List Char :=
  match s with
  | [] => (acc, 0, [])
  | c :: rest =>
    match digit? c with
    | none => (acc, 0, s)
    | some d =>
      if mostWord < 10 * acc + d then
        (acc, (s.takeWhile isDigit).length, s.dropWhile isDigit)
      else significand rest (10 * acc + d)

def finishReal (positive : Bool) (n : Nat) (e : Int) (s : List Char) : Reading Number :=
  match scaled 400 (nearest n 0) e with
  | none => fail .outOfRange s
  | some x => .ok (.real (if positive then x else -x), s)

def mostPower : Nat := 2147483647

def readPower (positive : Bool) (n : Nat) (e : Int) (s : List Char) : Reading Number :=
  let (up, s) := match s with
    | '+' :: s => (true, s)
    | '-' :: s => (false, s)
    | s => (true, s)
  match s with
  | [] => fail .valueEnds []
  | c :: rest =>
    if !isDigit c then failNext .invalidNumber (c :: rest)
    else
      let ds := s.takeWhile isDigit
      let rest := s.dropWhile isDigit
      let power := natOf 0 ds
      if power ≤ mostPower then
        finishReal positive n (if up then e + power else e - power) rest
      else if n ≠ 0 ∧ up then
        let passed := (List.range (ds.length + 1)).findIdx fun k => mostPower < natOf 0 (ds.take k)
        fail .outOfRange (s.drop passed)
      else .ok (.real (if positive then 0 else -0.0), rest)

def readFraction (positive : Bool) (n : Nat) (e : Int) (s : List Char) : Reading Number :=
  let (m, passed, rest) := significand s n
  let places := s.length - rest.length - passed
  if places = 0 ∧ passed = 0 then
    match rest with
    | [] => failNext .valueEnds []
    | _ => failNext .invalidNumber rest
  else
    match rest with
    | 'e' :: r | 'E' :: r => readPower positive m (e - places) r
    | _ => finishReal positive m (e - places) rest

def readNumber (positive : Bool) (s : List Char) : Reading Number :=
  match s with
  | [] => fail .valueEnds []
  | c :: rest =>
    if !isDigit c then failNext .invalidNumber (c :: rest)
    else if c = '0' ∧ (rest.takeWhile isDigit) ≠ [] then failNext .invalidNumber rest
    else
      let (n, passed, rest) := significand s 0
      match rest with
      | '.' :: r => readFraction positive n passed r
      | 'e' :: r | 'E' :: r => readPower positive n passed r
      | _ =>
        if passed ≠ 0 then finishReal positive n passed rest
        else if positive then .ok (.int n, rest)
        else if n = 0 ∨ mostInt + 1 < n then .ok (.real (-(nearest n 0)), rest)
        else .ok (.int (-(n : Int)), rest)

def readItems {α : Type} (item : List Char → Reading α) :
    Nat → List α → List Char → Reading (List α)
  | 0, _, s => fail .listEnds s
  | fuel + 1, acc, s =>
    match skipSpace s with
    | [] => failNext .listEnds []
    | ']' :: rest => .ok (acc.reverse, rest)
    | c :: rest =>
      if acc.isEmpty then
        match item (c :: rest) with
        | .error e => .error e
        | .ok (v, rest) => readItems item fuel [v] rest
      else if c ≠ ',' then failNext .expectedCommaOrBracket (c :: rest)
      else
        match skipSpace rest with
        | [] => failNext .valueEnds []
        | ']' :: r => failNext .trailingComma (']' :: r)
        | r =>
          match item r with
          | .error e => .error e
          | .ok (v, rest) => readItems item fuel (v :: acc) rest

def readColon (s : List Char) : Except Failure (List Char) :=
  match skipSpace s with
  | [] => failNext .objectEnds []
  | ':' :: rest => .ok rest
  | rest => failNext .expectedColon rest

def nextName (first : Bool) (s : List Char) : Except Failure (Option (List Char) × List Char) :=
  match skipSpace s with
  | [] => failNext .objectEnds []
  | '\x7d' :: rest => .ok (none, rest)
  | c :: rest =>
    if first then
      if c = '"' then .ok (some rest, rest) else failNext .nameNotText (c :: rest)
    else if c ≠ ',' then failNext .expectedCommaOrBrace (c :: rest)
    else
      match skipSpace rest with
      | '"' :: r => .ok (some r, r)
      | '\x7d' :: r => failNext .trailingComma ('\x7d' :: r)
      | [] => failNext .valueEnds []
      | r => failNext .nameNotText r

def readMembers {α : Type} (item : List Char → Reading α) :
    Nat → List (String × α) → List Char → Reading (List (String × α))
  | 0, _, s => fail .objectEnds s
  | fuel + 1, acc, s =>
    match nextName acc.isEmpty s with
    | .error e => .error e
    | .ok (none, rest) => .ok (acc.reverse, rest)
    | .ok (some r, _) =>
      match readText r with
      | .error e => .error e
      | .ok (name, rest) =>
        match readColon rest with
        | .error e => .error e
        | .ok rest =>
          match item rest with
          | .error e => .error e
          | .ok (v, rest) => readMembers item fuel ((name, v) :: acc) rest

def readValue : Nat → List Char → Reading Json
  | depth, s =>
    match skipSpace s with
    | [] => failNext .valueEnds []
    | 'n' :: rest => readWord .null "ull".toList rest
    | 't' :: rest => readWord (.bool true) "rue".toList rest
    | 'f' :: rest => readWord (.bool false) "alse".toList rest
    | '-' :: rest => (readNumber false rest).map fun (n, rest) => (.number n, rest)
    | '"' :: rest => (readText rest).map fun (t, rest) => (.text t, rest)
    | '[' :: rest =>
      match depth with
      | 0 => failNext .tooDeep ('[' :: rest)
      | depth + 1 =>
        (readItems (readValue depth) (rest.length + 1) [] rest).map fun (xs, rest) =>
          (.array xs, rest)
    | '\x7b' :: rest =>
      match depth with
      | 0 => failNext .tooDeep ('\x7b' :: rest)
      | depth + 1 =>
        (readMembers (readValue depth) (rest.length + 1) [] rest).map fun (ms, rest) =>
          (.object (Record.ofList ms), rest)
    | c :: rest =>
      if isDigit c then (readNumber true (c :: rest)).map fun (n, rest) => (.number n, rest)
      else failNext .expectedValue (c :: rest)

def depthLimit : Nat := 127

def readEnd {α : Type} (v : α) (s : List Char) : Except Failure α :=
  match skipSpace s with
  | [] => .ok v
  | rest => failNext .trailingCharacters rest

def read (s : List Char) : Except Failure Json :=
  match readValue depthLimit s with
  | .error e => .error e
  | .ok (v, rest) => readEnd v rest

end Tabular.Json
