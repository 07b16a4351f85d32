import Tabular.Decimal.Basic

/-!
# Decimal digits of a double

A finite double is `m · 2 ^ q`, and the real numbers that round to it form an
interval around it, whose ends belong to it when `m` is even. Its shortest
digits are those of the first decimal grid with a point in that interval.
-/

set_option autoImplicit false

namespace Tabular.Decimal

structure Binary where
  m : Nat
  q : Int
  lowest : Bool

def leadingUnit : Nat := 4503599627370496

def exponentBits (x : Float) : Nat := x.toBits.toNat / leadingUnit % 2048

def fractionBits (x : Float) : Nat := x.toBits.toNat % leadingUnit

def negativeSign (x : Float) : Bool := mostInt < x.toBits.toNat

def isFinite (x : Float) : Bool := exponentBits x ≠ 2047

def binary (x : Float) : Binary :=
  if exponentBits x = 0 then ⟨fractionBits x, -1074, false⟩
  else
    ⟨fractionBits x + leadingUnit, exponentBits x - 1075, fractionBits x = 0 ∧ 1 < exponentBits x⟩

structure Ratio where
  num : Nat
  den : Nat

namespace Ratio

def byTwo (n : Nat) (q : Int) : Ratio := ⟨n * Nat.pow 2 q.toNat, Nat.pow 2 (-q).toNat⟩

def inUnits (r : Ratio) (e : Int) : Ratio :=
  ⟨r.num * Nat.pow 10 (-e).toNat, r.den * Nat.pow 10 e.toNat⟩

def floor (r : Ratio) : Nat := r.num / r.den

def magnitude (r : Ratio) : Int :=
  let k : Int := (natText r.num).length - (natText r.den).length
  if r.num * Nat.pow 10 (-k).toNat < r.den * Nat.pow 10 k.toNat then k else k + 1

end Ratio

def Binary.value (b : Binary) : Ratio := .byTwo (4 * b.m) (b.q - 2)

def Binary.low (b : Binary) : Ratio := .byTwo (4 * b.m - if b.lowest then 1 else 2) (b.q - 2)

def Binary.high (b : Binary) : Ratio := .byTwo (4 * b.m + 2) (b.q - 2)

def Binary.holds (b : Binary) (c : Nat) (e : Int) : Bool :=
  let lo := b.low.inUnits e
  let hi := b.high.inUnits e
  if b.m % 2 = 0 then lo.num ≤ c * lo.den && c * hi.den ≤ hi.num
  else lo.num < c * lo.den && c * hi.den < hi.num

def Binary.onGrid? (b : Binary) (e : Int) : Option Nat :=
  let v := b.value.inUnits e
  let c := v.floor
  match b.holds c e, b.holds (c + 1) e with
  | true, true =>
    let twice := 2 * (v.num - c * v.den)
    if twice < v.den ∨ (twice = v.den ∧ c % 2 = 0) then some c else some (c + 1)
  | true, false => some c
  | false, true => some (c + 1)
  | false, false => none

def Binary.search (b : Binary) (k : Int) : Nat → Nat → Decimal
  | 0, n => ⟨(b.value.inUnits (k - n)).floor, k - n⟩
  | fuel + 1, n =>
    match b.onGrid? (k - n) with
    | some c => strip 20 ⟨c, k - n⟩
    | none => b.search k fuel (n + 1)

def shortest (x : Float) : Decimal :=
  let b := binary x
  if b.m = 0 then ⟨0, 0⟩ else b.search b.value.magnitude 17 1

def significant (n : Nat) (x : Float) : Decimal :=
  let b := binary x
  if b.m = 0 then ⟨0, 0⟩
  else
    let e := b.value.magnitude - n
    let v := b.value.inUnits e
    strip 400 ⟨(2 * v.num + v.den) / (2 * v.den), e⟩

def signed (x : Float) (magnitude : List Char) : String :=
  String.ofList (if negativeSign x then '-' :: magnitude else magnitude)

end Tabular.Decimal
