import Tabular.Sql.Value
import Tabular.Text.Search

/-!
# Numbers in texts

A text is read as a number as far as it goes. Its affinity says whether a value
that is stored or compared becomes a number or a text first.
-/

set_option autoImplicit false

namespace Tabular.Sql

open Tabular.Decimal

def isSpace (c : Char) : Bool := c = ' ' || (9 ≤ c.toNat && c.toNat ≤ 13)

structure Numeral where
  negative : Bool
  digits : Nat
  exponent : Int
  given : Bool
  integral : Bool
  complete : Bool

namespace Numeral

def power? (s : List Char) : Option (Int × List Char) :=
  let (negative, ds) := match s with
    | '-' :: ds => (true, ds)
    | '+' :: ds => (false, ds)
    | ds => (false, ds)
  match ds.takeWhile isDigit with
  | [] => none
  | power =>
    let n : Int := natOf 0 power
    some (if negative then -n else n, ds.dropWhile isDigit)

def ofChars (s : List Char) : Numeral :=
  let s := s.dropWhile isSpace
  let (negative, s) := match s with
    | '-' :: r => (true, r)
    | '+' :: r => (false, r)
    | r => (false, r)
  let front := s.takeWhile isDigit
  let s := s.dropWhile isDigit
  let (pointed, back, s) := match s with
    | '.' :: r => (true, r.takeWhile isDigit, r.dropWhile isDigit)
    | r => (false, [], r)
  let given := front ≠ [] ∨ back ≠ []
  let digits := natOf 0 (front ++ back)
  let blankRest (r : List Char) : Bool := r.all isSpace
  match s with
  | c :: r =>
    if (c = 'e' ∨ c = 'E') ∧ given then
      match power? r with
      | some (power, r) => ⟨negative, digits, power - back.length, given, false, blankRest r⟩
      | none => ⟨negative, digits, -back.length, given, false, false⟩
    else ⟨negative, digits, -back.length, given, !pointed, blankRest (c :: r) && given⟩
  | [] => ⟨negative, digits, -back.length, given, !pointed, given⟩

def toReal (n : Numeral) : Float :=
  let x := nearest n.digits n.exponent
  if n.negative then -x else x

def toInt? (n : Numeral) : Option Int64 :=
  let i : Int := if n.negative then -(n.digits : Int) else n.digits
  if leastInt ≤ i ∧ i ≤ mostInt then some (Int64.ofInt i) else none

end Numeral

def realToInt (x : Float) : Int64 :=
  if x ≤ -9223372036854775808.0 then Int64.minValue
  else if 9223372036854775808.0 ≤ x then Int64.maxValue
  else x.toInt64

def wholeReal? (x : Float) : Option Int64 :=
  let i := realToInt x
  if i.toFloat == x ∧ Int64.minValue < i ∧ i < Int64.maxValue then some i else none

namespace Value

def chars (v : Value) : List Char := v.shown.toList

def numeral (v : Value) : Numeral := .ofChars v.chars

def toReal : Value → Float
  | .null => 0
  | .int i => i.toFloat
  | .real x => x
  | v => v.numeral.toReal

def leadingInt (s : List Char) : Int64 :=
  let s := s.dropWhile isSpace
  let (negative, ds) := match s with
    | '-' :: r => (true, r)
    | '+' :: r => (false, r)
    | r => (false, r)
  let n := natOf 0 (ds.takeWhile isDigit)
  if negative then (if mostInt < n then Int64.minValue else Int64.ofInt (-(n : Int)))
  else if mostInt < n then Int64.maxValue else Int64.ofNat n

def toInt : Value → Int64
  | .null => 0
  | .int i => i
  | .real x => realToInt x
  | v => leadingInt v.chars

def toNumber : Value → Value
  | .null => .null
  | .int i => .int i
  | .real x => .real x
  | v =>
    let n := v.numeral
    match (if n.integral then n.toInt? else none) with
    | some i => .int i
    | none => .real n.toReal

def truth : Value → Option Bool
  | .null => none
  | .int i => some (i ≠ 0)
  | v => some (!(v.toReal == 0))

end Value

inductive Affinity where
  | unset
  | blob
  | text
  | numeric
  | integer
  | real
deriving DecidableEq

namespace Affinity

def ofDeclared (declared : String) : Affinity :=
  let t := declared.toList.map Char.toLower
  let mentions (word : String) : Bool := Text.contains word.toList t
  if mentions "int" then .integer
  else if mentions "char" || mentions "clob" || mentions "text" then .text
  else if mentions "blob" then .blob
  else if mentions "real" || mentions "floa" || mentions "doub" then .real
  else .numeric

def isNumeric : Affinity → Bool
  | .numeric | .integer | .real => true
  | _ => false

def numberOfText (whole : Bool) (v : Value) : Value :=
  let n := v.numeral
  if !n.complete then v
  else
    match (if n.integral then n.toInt? else none) with
    | some i => .int i
    | none =>
      match (if whole then wholeReal? n.toReal else none) with
      | some i => .int i
      | none => .real n.toReal

def storedReal (x : Float) : Value := if x == 0 then .real 0 else .real x

def store (a : Affinity) (v : Value) : Value :=
  match a with
  | .unset | .blob => v
  | .text => if v.isNumber then v.toText else v
  | .numeric | .integer =>
    match v with
    | .real x => match wholeReal? x with
      | some i => .int i
      | none => .real x
    | v => if v.isText then numberOfText true v else v
  | .real =>
    match (if v.isText then numberOfText true v else v) with
    | .int i => storedReal i.toFloat
    | .real x => storedReal x
    | v => v

def common (a b : Affinity) : Affinity :=
  if a ≠ .unset ∧ b ≠ .unset then
    if a.isNumeric || b.isNumeric then .numeric else .blob
  else if a = .unset then b else a

def compared (a : Affinity) (v w : Value) : Value × Value :=
  if a.isNumeric then
    (if v.isText then numberOfText false v else v, if w.isText then numberOfText false w else w)
  else if a = .text ∧ (v.isText ∨ w.isText) then
    (if v.isNumber then v.toText else v, if w.isNumber then w.toText else w)
  else (v, w)

def cast (a : Affinity) (v : Value) : Value :=
  match a, v with
  | _, .null => .null
  | .unset, v | .blob, v => .blob v.bytes
  | .text, v => v.toText
  | .integer, v => .int v.toInt
  | .real, v => .real v.toReal
  | .numeric, .int i => .int i
  | .numeric, .real x => .real x
  | .numeric, v =>
    let n := v.numeral
    match (if n.integral then n.toInt? else none) with
    | some i => .int i
    | none =>
      match wholeReal? n.toReal with
      | some i => .int i
      | none => .real n.toReal

end Affinity
end Tabular.Sql
