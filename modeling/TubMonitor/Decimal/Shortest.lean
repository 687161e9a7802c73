import TubMonitor.Decimal.Binary64

/-!
# The shortest decimal of a double

Among the decimals that read back as a given double, the ones with the fewest
digits are candidates, and of those the one nearest to the double is chosen.  For
each number of digits only the two grid points around the value matter: if any
point of that grid lies among the numbers that read back, so does one of the two.
-/

namespace TubMonitor
namespace Decimal

structure Scaled where
  coefficient : Nat
  exponent : Int
deriving DecidableEq, Repr

inductive Tie where
  | toEven
  | up
deriving DecidableEq, Repr

/-!
## Decimal magnitude

The power of ten `k` with `10 ^ k ≤ numerator / denominator < 10 ^ (k + 1)`, found
by counting digits.
-/

def magnitude (numerator denominator : Nat) : Int :=
  if denominator ≤ numerator then
    ((Nat.toDigits 10 (numerator / denominator)).length : Int) - 1
  else
    -((Nat.toDigits 10 ((denominator - 1) / numerator)).length : Int)

/-!
## The numbers that read back

In quarters of the last place the value is `4 * significand`.  The upper end lies
two quarters above it.  The lower end lies two quarters below, or one where the
significand is the least of its binade and the neighbour below is closer.  The ends
belong to the interval when the significand is even.
-/

structure Interval where
  lower : Nat
  value : Nat
  upper : Nat
  denominator : Nat
  closed : Bool

def Interval.ofDouble (significand : Nat) (exponent : Int) : Interval :=
  let scale := Nat.pow 2 (exponent - 2).toNat
  let narrow := significand = Nat.pow 2 52 ∧ -1074 < exponent
  { lower := (4 * significand - if narrow then 1 else 2) * scale
    value := 4 * significand * scale
    upper := (4 * significand + 2) * scale
    denominator := Nat.pow 2 (2 - exponent).toNat
    closed := significand % 2 == 0 }

def Interval.holds (i : Interval) (x : Nat) (lower upper : Nat) : Bool :=
  if i.closed then lower ≤ x && x ≤ upper else lower < x && x < upper

/--
The candidate on the grid of step ten to the power `exponent`, if one of the two
points around the value reads back.
-/
def Interval.candidate (i : Interval) (tie : Tie) (exponent : Int) : Option Scaled :=
  let grow := Nat.pow 10 (-exponent).toNat
  let step := i.denominator * Nat.pow 10 exponent.toNat
  let value := i.value * grow
  let below := value / step
  let above := below + 1
  let lowHit := i.holds (below * step) (i.lower * grow) (i.upper * grow)
  let highHit := i.holds (above * step) (i.lower * grow) (i.upper * grow)
  let fromBelow := value - below * step
  let toAbove := above * step - value
  if lowHit && highHit then
    if fromBelow < toAbove then
      some ⟨below, exponent⟩
    else if toAbove < fromBelow then
      some ⟨above, exponent⟩
    else
      match tie with
      | .up => some ⟨above, exponent⟩
      | .toEven => some ⟨below + below % 2, exponent⟩
  else if lowHit then
    some ⟨below, exponent⟩
  else if highHit then
    some ⟨above, exponent⟩
  else
    none

/-!
## Choosing the digits

Seventeen digits always suffice, so the search ends there.
-/

def shortest (tie : Tie) (significand : Nat) (exponent : Int) : Scaled :=
  let interval := Interval.ofDouble significand exponent
  let top := magnitude interval.value interval.denominator
  let attempt (count : Nat) : Option Scaled := interval.candidate tie (top - count)
  ((List.range 17).findSome? attempt).getD ⟨0, 0⟩

def Scaled.trim (s : Scaled) : Scaled :=
  let digits := Nat.toDigits 10 s.coefficient
  let zeros := (digits.reverse.takeWhile (· == '0')).length
  if s.coefficient = 0 then
    s
  else
    ⟨s.coefficient / Nat.pow 10 zeros, s.exponent + zeros⟩

end Decimal
end TubMonitor
