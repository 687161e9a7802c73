/-!
# Reading numbers

Whole numbers are read digit by digit, so the first digit that is no digit and the
first digit that no longer fits are told apart by which of them comes first.
Decimal literals are read exactly and rounded once.
-/

namespace TubMonitor
namespace Decimal

/-!
## Whole numbers
-/

inductive IntegerFault where
  | empty
  | invalidDigit
  | tooLarge
  | tooSmall
deriving DecidableEq, Repr

def IntegerFault.message : IntegerFault → String
  | .empty => "cannot parse integer from empty string"
  | .invalidDigit => "invalid digit found in string"
  | .tooLarge => "number too large to fit in target type"
  | .tooSmall => "number too small to fit in target type"

def digit? (c : Char) : Option Nat :=
  if c.isDigit then some (c.toNat - '0'.toNat) else none

/-- Continues a number already read up to `value`, none of whose extensions may pass `bound`. -/
def digitsUpTo (bound : Nat) (overflow : IntegerFault) (value : Nat) :
    List Char → Except IntegerFault Nat
  | [] => .ok value
  | c :: rest =>
      match digit? c with
      | none => .error .invalidDigit
      | some d =>
          if bound < 10 * value + d then
            .error overflow
          else
            digitsUpTo bound overflow (10 * value + d) rest

def natural (bound : Nat) : List Char → Except IntegerFault Nat
  | [] => .error .empty
  | ['+'] => .error .invalidDigit
  | '+' :: rest => digitsUpTo bound .tooLarge 0 rest
  | row => digitsUpTo bound .tooLarge 0 row

def integer (bound : Nat) : List Char → Except IntegerFault Int
  | ['-'] => .error .invalidDigit
  | '-' :: rest => (digitsUpTo (bound + 1) .tooSmall 0 rest).map fun n => -(n : Int)
  | row => (natural bound row).map fun n => (n : Int)

/-!
## Decimal literals

An optional sign, then either one of the words for the special values or digits
with at most one point and at least one digit, and an optional exponent.
-/

inductive Literal where
  | number (negative : Bool) (coefficient : Nat) (exponent : Int)
  | infinite (negative : Bool)
  | nan
deriving DecidableEq, Repr

def natOfDigits (row : List Char) : Nat :=
  Nat.ofDigitChars 10 row 0

def signed : List Char → Bool × List Char
  | '-' :: rest => (true, rest)
  | '+' :: rest => (false, rest)
  | row => (false, row)

def exponent? : List Char → Option Int
  | [] => some 0
  | mark :: rest =>
      let (negative, row) := signed rest
      if (mark == 'e' || mark == 'E') && !row.isEmpty && row.all Char.isDigit then
        some (if negative then -(natOfDigits row : Int) else natOfDigits row)
      else
        none

def fraction : List Char → List Char × List Char
  | '.' :: rest => (rest.takeWhile Char.isDigit, rest.dropWhile Char.isDigit)
  | row => ([], row)

def Literal.unsigned? (negative : Bool) (row : List Char) : Option Literal :=
  let whole := row.takeWhile Char.isDigit
  let (places, rest) := fraction (row.dropWhile Char.isDigit)
  if whole.isEmpty && places.isEmpty then
    none
  else
    (exponent? rest).map fun e =>
      .number negative (natOfDigits (whole ++ places)) (e - places.length)

def Literal.read? (row : List Char) : Option Literal :=
  let (negative, rest) := signed row
  let word := String.ofList (rest.map Char.toLower)
  if word = "inf" ∨ word = "infinity" then
    some (.infinite negative)
  else if word = "nan" then
    some .nan
  else
    Literal.unsigned? negative rest

/--
The double nearest to `coefficient * 10 ^ exponent`.  Beyond the magnitudes of
doubles the answer is infinity or zero whatever the digits.
-/
def magnitudeToFloat (coefficient : Nat) (exponent : Int) : Float :=
  let size := ((Nat.toDigits 10 coefficient).length : Int) + exponent
  if coefficient = 0 ∨ size < -330 then
    0.0
  else if 310 < size then
    1.0 / 0.0
  else
    Float.ofScientific coefficient (exponent < 0) exponent.natAbs

def Literal.toFloat : Literal → Float
  | .nan => 0.0 / 0.0
  | .infinite negative => if negative then -1.0 / 0.0 else 1.0 / 0.0
  | .number negative coefficient exponent =>
      let magnitude := magnitudeToFloat coefficient exponent
      if negative then -magnitude else magnitude

def float? (row : List Char) : Option Float :=
  (Literal.read? row).map Literal.toFloat

end Decimal
end TubMonitor
