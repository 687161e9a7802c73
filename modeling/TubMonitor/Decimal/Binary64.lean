/-!
# Doubles as exact numbers

A finite double is a whole significand times a power of two.  This module reads
that pair off the bits, so that every rule about the text of a number can be
stated and computed in exact arithmetic, and it holds the rounding of a quotient
of naturals that those rules share.
-/

namespace TubMonitor

inductive Binary64 where
  | finite (negative : Bool) (significand : Nat) (exponent : Int)
  | infinite (negative : Bool)
  | nan
deriving DecidableEq, Repr

namespace Binary64

/-!
## Reading the bits

One sign bit, eleven exponent bits and fifty-two fraction bits.  The lowest
exponent field holds zero and the subnormal numbers, the highest one the
infinities and the NaNs.
-/

def ofBits (bits : Nat) : Binary64 :=
  let negative := bits / Nat.pow 2 63 % 2 == 1
  let field : Nat := bits / Nat.pow 2 52 % Nat.pow 2 11
  let fraction : Nat := bits % Nat.pow 2 52
  if field = 2047 then
    if fraction = 0 then infinite negative else nan
  else if field = 0 then
    finite negative fraction (-1074)
  else
    finite negative (Nat.pow 2 52 + fraction) ((field : Int) - 1075)

def ofFloat (x : Float) : Binary64 :=
  ofBits x.toBits.toNat

def ratio (significand : Nat) (exponent : Int) : Nat × Nat :=
  (significand * Nat.pow 2 exponent.toNat, Nat.pow 2 (-exponent).toNat)

end Binary64

/-!
## Rounding a quotient

The nearest natural to `numerator / denominator`; an exact half goes to the even
neighbour.
-/

def roundHalfEven (numerator denominator : Nat) : Nat :=
  let below := numerator / denominator
  let rest := numerator % denominator
  if 2 * rest < denominator then
    below
  else if denominator < 2 * rest then
    below + 1
  else
    below + below % 2

end TubMonitor
