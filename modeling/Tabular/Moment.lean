import Tabular.Decimal.Basic

/-!
# Moments

What a clock shows that never goes back: seconds in a word with a sign, and the
nanoseconds after them.
-/

set_option autoImplicit false

namespace Tabular

def Moment.perSecond : Nat := 1000000000

structure Moment where
  seconds : Int64
  nanoseconds : Nat
  within : nanoseconds < Moment.perSecond
deriving DecidableEq

namespace Moment

def later? (now : Moment) (milliseconds : Nat) : Option Moment :=
  let nanoseconds := now.nanoseconds + 1000000 * (milliseconds % 1000)
  let seconds := now.seconds.toInt + (milliseconds / 1000 + nanoseconds / perSecond : Nat)
  if seconds ≤ Decimal.mostInt then
    some ⟨.ofInt seconds, nanoseconds % perSecond, Nat.mod_lt _ (by decide)⟩
  else none

def ofMilliseconds (n : Nat) : Moment :=
  ⟨.ofNat (n / 1000), 1000000 * (n % 1000), by unfold perSecond; omega⟩

end Moment
end Tabular
