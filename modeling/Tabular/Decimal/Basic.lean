/-!
# Decimal numbers and how they are laid out

A decimal number is a whole number of units of a power of ten. A layout says
where positional notation ends and how an exponent is written.
-/

set_option autoImplicit false

namespace Tabular

structure Decimal where
  digits : Nat
  exponent : Int
deriving DecidableEq

namespace Decimal

def mostWord : Nat := 18446744073709551615

def mostInt : Int := 9223372036854775807

def leastInt : Int := -9223372036854775808

def natText (n : Nat) : List Char := Nat.toDigits 10 n

def intText (i : Int) : List Char :=
  if i < 0 then '-' :: natText i.natAbs else natText i.natAbs

def showNat (n : Nat) : String := String.ofList (natText n)

def showInt (i : Int) : String := String.ofList (intText i)

theorem showInt_eq_toString (i : Int) : showInt i = toString i := by
  rw [← String.toList_inj]
  cases i <;> simp [showInt, intText, natText, toString, Int.repr, Nat.repr]

def strip : Nat → Decimal → Decimal
  | 0, d => d
  | fuel + 1, d =>
    if d.digits ≠ 0 ∧ d.digits % 10 = 0 then strip fuel ⟨d.digits / 10, d.exponent + 1⟩ else d

def lead (d : Decimal) : Int := (natText d.digits).length + d.exponent - 1

structure Layout where
  least : Int
  most : Int
  exponentWidth : Nat
  pointed : Bool

def zeros (n : Nat) : List Char := List.replicate n '0'

def positional (d : Decimal) : List Char :=
  let ds := natText d.digits
  if 0 ≤ d.exponent then ds ++ zeros d.exponent.toNat ++ ['.', '0']
  else
    let places := d.exponent.natAbs
    let padded := zeros (places + 1 - ds.length) ++ ds
    padded.take (padded.length - places) ++ '.' :: padded.drop (padded.length - places)

def scientific (l : Layout) (d : Decimal) : List Char :=
  let mantissa := match natText d.digits with
    | [] => []
    | [c] => if l.pointed then [c, '.', '0'] else [c]
    | c :: cs => c :: '.' :: cs
  let power := natText d.lead.natAbs
  mantissa ++ ['e', if d.lead < 0 then '-' else '+'] ++
    zeros (l.exponentWidth - power.length) ++ power

def layout (l : Layout) (d : Decimal) : List Char :=
  if d.digits = 0 ∨ (l.least ≤ d.lead ∧ d.lead < l.most) then positional d else scientific l d

end Decimal
end Tabular
