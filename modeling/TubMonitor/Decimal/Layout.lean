import TubMonitor.Decimal.Shortest

/-!
# Writing numbers

Which digits a number is written with is one question, how they are laid out is
another.  A `Layout` answers the second one: where positional notation ends, whether
a whole number shows a fraction, and which way ties go.  The module also writes
numbers with a fixed count of decimal places, rounded from the exact value.
-/

namespace TubMonitor
namespace Decimal

/-!
## Digit rows
-/

def digitRow (n : Nat) : List Char :=
  Nat.toDigits 10 n

def padded (width : Nat) (row : List Char) : List Char :=
  List.replicate (width - row.length) '0' ++ row

def zeroPadded (width n : Nat) : List Char :=
  padded width (digitRow n)

def integerRow (n : Int) : List Char :=
  if n < 0 then '-' :: digitRow n.natAbs else digitRow n.natAbs

def integerText (n : Int) : String :=
  String.ofList (integerRow n)

/-!
## Layouts
-/

structure Layout where
  /-- Where a tie between two shortest decimals goes. -/
  tie : Tie
  /-- Whether a whole number is followed by a point and a zero. -/
  showsWhole : Bool
  /-- The positions of the decimal point that are written without an exponent; all if absent. -/
  positional : Option (Int × Int)

/-- Plain text: positional whatever the size, and no point in a whole number. -/
def plain : Layout :=
  { tie := .up
    showsWhole := false
    positional := none }

/-- Documents: sixteen places before the point and five zeros after it, then an exponent. -/
def document : Layout :=
  { tie := .toEven
    showsWhole := true
    positional := some (-4, 16) }

def pointed (showsWhole : Bool) (row : List Char) (point : Int) : List Char :=
  if point ≤ 0 then
    ['0', '.'] ++ List.replicate (-point).toNat '0' ++ row
  else if (row.length : Int) ≤ point then
    row ++ List.replicate (point.toNat - row.length) '0' ++
      (if showsWhole then ['.', '0'] else [])
  else
    row.take point.toNat ++ ['.'] ++ row.drop point.toNat

def scientific (row : List Char) (power : Int) : List Char :=
  let mantissa :=
    match row with
    | first :: second :: rest => [first, '.', second] ++ rest
    | short => short
  let sign := if power < 0 then '-' else '+'
  mantissa ++ ['e', sign] ++ digitRow power.natAbs

def Layout.magnitudeRow (l : Layout) (s : Scaled) : List Char :=
  let row := digitRow s.coefficient
  let point := (row.length : Int) + s.exponent
  match l.positional with
  | none => pointed l.showsWhole row point
  | some (low, high) =>
      if low ≤ point ∧ point ≤ high then
        pointed l.showsWhole row point
      else
        scientific row (point - 1)

def Layout.row (l : Layout) : Binary64 → List Char
  | .nan => ['N', 'a', 'N']
  | .infinite negative => (if negative then ['-'] else []) ++ ['i', 'n', 'f']
  | .finite negative significand exponent =>
      let magnitude :=
        if significand = 0 then
          pointed l.showsWhole ['0'] 1
        else
          l.magnitudeRow (shortest l.tie significand exponent).trim
      (if negative then ['-'] else []) ++ magnitude

def Layout.text (l : Layout) (x : Float) : String :=
  String.ofList (l.row (Binary64.ofFloat x))

/-!
## Fixed places

The exact value is rounded once to the wanted number of places, halves to the even
neighbour.  The sign stays also where the digits vanish.
-/

def fixedRow (places : Nat) : Binary64 → List Char
  | .nan => ['N', 'a', 'N']
  | .infinite negative => (if negative then ['-'] else []) ++ ['i', 'n', 'f']
  | .finite negative significand exponent =>
      let (numerator, denominator) := Binary64.ratio significand exponent
      let units := roundHalfEven (numerator * Nat.pow 10 places) denominator
      let row := zeroPadded (places + 1) units
      let whole := row.length - places
      let fraction := if places = 0 then [] else '.' :: row.drop whole
      (if negative then ['-'] else []) ++ row.take whole ++ fraction

def fixed (places : Nat) (x : Float) : String :=
  String.ofList (fixedRow places (Binary64.ofFloat x))

end Decimal
end TubMonitor
