import TubMonitor.Json.Value
import TubMonitor.Decimal.Literal

/-!
# Numbers in documents

A numeral is a sign, whole digits, digits after a point and a power of ten.  A whole
number of 64 bits is taken as it is.  For any other number the digits are gathered in
64 bits as far as they fit, further digits count for their place only, and the result
is scaled by one multiplication or division per 308 powers of ten.
-/

namespace TubMonitor
namespace Json

structure Numeral where
  negative : Bool
  whole : List Char
  places : Option (List Char)
  power : Option Int
deriving DecidableEq, Repr

/-!
## Grammar

No superfluous leading zero, at least one digit after a point, and at least one digit
in an exponent.  Each reader returns what it leaves unread.
-/

def whole? : List Char → Option (List Char × List Char)
  | '0' :: rest => some (['0'], rest)
  | row =>
      let digits := row.takeWhile Char.isDigit
      if digits.isEmpty then none else some (digits, row.dropWhile Char.isDigit)

def places? : List Char → Option (Option (List Char) × List Char)
  | '.' :: rest =>
      let digits := rest.takeWhile Char.isDigit
      if digits.isEmpty then none else some (some digits, rest.dropWhile Char.isDigit)
  | row => some (none, row)

def power? : List Char → Option (Option Int × List Char)
  | [] => some (none, [])
  | mark :: rest =>
      if mark = 'e' ∨ mark = 'E' then
        let (negative, row) := Decimal.signed rest
        let digits := row.takeWhile Char.isDigit
        let size : Int := Decimal.natOfDigits digits
        if digits.isEmpty then
          none
        else
          some (some (if negative then -size else size), row.dropWhile Char.isDigit)
      else
        some (none, mark :: rest)

def minus : List Char → Bool × List Char
  | '-' :: rest => (true, rest)
  | row => (false, row)

def numeral? (row : List Char) : Option (Numeral × List Char) := do
  let (negative, row) := minus row
  let (whole, row) ← whole? row
  let (places, row) ← places? row
  let (power, row) ← power? row
  some ({ negative, whole, places, power }, row)

/-!
## Every numeral takes something off the text
-/

theorem length_dropWhile_le (p : Char → Bool) (row : List Char) :
    (row.dropWhile p).length ≤ row.length := by
  induction row with
  | nil => simp
  | cons c rest ih =>
      simp only [List.dropWhile_cons]
      split
      · simp only [List.length_cons]; omega
      · simp

theorem length_dropWhile_lt {p : Char → Bool} {row : List Char}
    (h : (row.takeWhile p).isEmpty = false) : (row.dropWhile p).length < row.length := by
  cases row with
  | nil => simp at h
  | cons c rest =>
      simp only [List.takeWhile_cons, List.dropWhile_cons] at *
      split at h
      · rename_i hc
        have := length_dropWhile_le p rest
        simp only [hc, ↓reduceIte, List.length_cons]
        omega
      · simp at h

theorem whole?_length {row digits rest : List Char} (h : whole? row = some (digits, rest)) :
    rest.length < row.length := by
  unfold whole? at h
  split at h
  · simp at h
    simp [← h.2]
  · simp only at h
    split at h
    · simp at h
    · rename_i hne
      simp at h
      rw [← h.2]
      exact length_dropWhile_lt (by simpa using hne)

theorem places?_length {row rest : List Char} {places : Option (List Char)}
    (h : places? row = some (places, rest)) : rest.length ≤ row.length := by
  unfold places? at h
  split at h
  · rename_i tail
    simp only at h
    split at h
    · simp at h
    · simp at h
      have := length_dropWhile_le Char.isDigit tail
      simp only [List.length_cons, ← h.2]
      omega
  · simp at h
    simp [h.2]

theorem signed_length (row : List Char) : (Decimal.signed row).2.length ≤ row.length := by
  unfold Decimal.signed
  split <;> simp

theorem power?_length {row rest : List Char} {power : Option Int}
    (h : power? row = some (power, rest)) : rest.length ≤ row.length := by
  unfold power? at h
  split at h
  · simp at h
    simp [h.2]
  · rename_i mark tail
    split at h
    · simp only at h
      split at h
      · simp at h
      · simp at h
        have := length_dropWhile_le Char.isDigit (Decimal.signed tail).2
        have := signed_length tail
        simp only [List.length_cons, ← h.2]
        omega
    · simp at h
      simp [← h.2]

theorem minus_length (row : List Char) : (minus row).2.length ≤ row.length := by
  unfold minus
  split <;> simp

theorem numeral?_length {row rest : List Char} {n : Numeral}
    (h : numeral? row = some (n, rest)) : rest.length < row.length := by
  have hm := minus_length row
  simp only [numeral?, Option.bind_eq_bind, Option.bind_eq_some_iff, Prod.exists] at h
  obtain ⟨digits, r₁, h₁, places, r₂, h₂, power, r₃, h₃, h₄⟩ := h
  have := whole?_length h₁
  have := places?_length h₂
  have := power?_length h₃
  simp at h₄
  rw [← h₄.2]
  omega

/-!
## Meaning
-/

def word64 : Nat := Nat.pow 2 64 - 1

/-- Appends digits while the number fits 64 bits; the digits left over come with it. -/
def gatherDigits (value : Nat) : List Char → Nat × List Char
  | [] => (value, [])
  | c :: rest =>
      let next := 10 * value + (c.toNat - '0'.toNat)
      if word64 < next then (value, c :: rest) else gatherDigits next rest

def powerOfTen (n : Nat) : Float :=
  Float.ofScientific 1 false n

/-- Scales a magnitude by a power of ten; none where the result is too large. -/
def scaled (x : Float) (exponent : Int) : Option Float :=
  if exponent.natAbs ≤ 308 then
    if 0 ≤ exponent then
      let product := x * powerOfTen exponent.natAbs
      if product.isInf then none else some product
    else
      some (x / powerOfTen exponent.natAbs)
  else if x == 0.0 then
    some x
  else if 0 ≤ exponent then
    none
  else
    scaled (x / powerOfTen 308) (exponent + 308)
termination_by exponent.natAbs
decreasing_by omega

def Numeral.real? (n : Numeral) : Option Float :=
  let (value, dropped) := gatherDigits 0 n.whole
  let places := n.places.getD []
  let (value, unread) := gatherDigits value places
  let exponent : Int := dropped.length - (places.length - unread.length : Nat) + n.power.getD 0
  (scaled (Float.ofNat value) exponent).map fun x => if n.negative then -x else x

/-- A whole number of 64 bits, signed or unsigned; a negative zero is none. -/
def Numeral.integer? (n : Numeral) : Option Int :=
  let value := Decimal.natOfDigits n.whole
  if n.places.isSome ∨ n.power.isSome then
    none
  else if n.negative then
    if 0 < value ∧ value ≤ Nat.pow 2 63 then some (-(value : Int)) else none
  else
    if value ≤ word64 then some value else none

def Numeral.value (n : Numeral) : Json :=
  match n.integer? with
  | some k => .integer k
  | none => .real n.real?

end Json
end TubMonitor
