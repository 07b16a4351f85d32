/-!
# Hexadecimal text

Bytes as pairs of lower-case digits, and the value of a digit of either case.
-/

set_option autoImplicit false

namespace Tabular.Text

def hexDigit? (c : Char) : Option Nat :=
  if '0' ≤ c ∧ c ≤ '9' then some (c.toNat - 48)
  else if 'a' ≤ c ∧ c ≤ 'f' then some (c.toNat - 87)
  else if 'A' ≤ c ∧ c ≤ 'F' then some (c.toNat - 55)
  else none

def hexDigit (n : Nat) : Char := Char.ofNat (if n < 10 then 48 + n else 87 + n)

def hexByte (b : UInt8) : List Char := [hexDigit (b.toNat / 16), hexDigit (b.toNat % 16)]

def hexBytes (bs : List UInt8) : String := String.ofList (bs.flatMap hexByte)

def bytesOfHex? : List Char → Option (List UInt8)
  | [] => some []
  | [_] => none
  | a :: b :: s => do
    let high ← hexDigit? a
    let low ← hexDigit? b
    let rest ← bytesOfHex? s
    some (UInt8.ofNat (16 * high + low) :: rest)

def hexNat (n : Nat) : String := String.ofList (Nat.toDigits 16 n)

end Tabular.Text
