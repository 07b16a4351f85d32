import Tabular.Decimal.Basic

/-!
# Reading numbers

Whole numbers within bounds, and doubles in positional or exponent notation.
-/

set_option autoImplicit false

namespace Tabular.Decimal

def digit? (c : Char) : Option Nat :=
  if '0' ≤ c ∧ c ≤ '9' then some (c.toNat - 48) else none

def isDigit (c : Char) : Bool := (digit? c).isSome

def natOf (acc : Nat) (ds : List Char) : Nat :=
  ds.foldl (fun n c => 10 * n + (c.toNat - 48)) acc

def nearest (digits : Nat) (exponent : Int) : Float :=
  let size := (natText digits).length + exponent
  if digits = 0 ∨ size < -330 then 0
  else if 310 < size then 1 / 0
  else Float.ofScientific digits (exponent < 0) exponent.natAbs

inductive WholeFault where
  | empty
  | badDigit
  | tooLarge
  | tooSmall
deriving DecidableEq

def WholeFault.message : WholeFault → String
  | .empty => "cannot parse integer from empty string"
  | .badDigit => "invalid digit found in string"
  | .tooLarge => "number too large to fit in target type"
  | .tooSmall => "number too small to fit in target type"

def wholeDigits (most : Nat) (passed : WholeFault) : Nat → List Char → Except WholeFault Nat
  | acc, [] => .ok acc
  | acc, c :: cs =>
    match digit? c with
    | none => .error .badDigit
    | some d =>
      if most < 10 * acc + d then .error passed else wholeDigits most passed (10 * acc + d) cs

def whole (low high : Int) (s : List Char) : Except WholeFault Int :=
  match s with
  | [] => .error .empty
  | '+' :: ds =>
    if ds = [] then .error .badDigit
    else (wholeDigits high.toNat .tooLarge 0 ds).map Int.ofNat
  | '-' :: ds =>
    if 0 ≤ low ∨ ds = [] then .error .badDigit
    else (wholeDigits low.natAbs .tooSmall 0 ds).map fun n => -(n : Int)
  | ds => (wholeDigits high.toNat .tooLarge 0 ds).map Int.ofNat

def word64? (s : List Char) : Option Int64 :=
  match whole leastInt mostInt s with
  | .ok i => some (Int64.ofInt i)
  | .error _ => none

def exponent? (s : List Char) : Option Int :=
  let (negative, ds) := match s with
    | '+' :: ds => (false, ds)
    | '-' :: ds => (true, ds)
    | ds => (false, ds)
  if ds ≠ [] ∧ ds.all isDigit then
    let n : Int := natOf 0 ds
    some (if negative then -n else n)
  else none

def unsignedReal? (s : List Char) : Option Float :=
  let front := s.takeWhile isDigit
  let afterFront := s.dropWhile isDigit
  let (back, afterBack) := match afterFront with
    | '.' :: r => (r.takeWhile isDigit, r.dropWhile isDigit)
    | r => ([], r)
  if front = [] ∧ back = [] then none
  else
    let digits := natOf 0 (front ++ back)
    match afterBack with
    | [] => some (nearest digits (-back.length))
    | c :: r =>
      if c = 'e' ∨ c = 'E' then
        (exponent? r).map fun e => nearest digits (e - back.length)
      else none

def real? (s : List Char) : Option Float :=
  let (negative, r) := match s with
    | '+' :: r => (false, r)
    | '-' :: r => (true, r)
    | r => (false, r)
  let magnitude :=
    match String.ofList (r.map Char.toLower) with
    | "inf" | "infinity" => some (1 / 0)
    | "nan" => some (0 / 0)
    | _ => unsignedReal? r
  magnitude.map fun x => if negative then -x else x

end Tabular.Decimal
