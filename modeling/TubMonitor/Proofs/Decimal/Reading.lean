import TubMonitor.Decimal.Literal

/-!
# Numbers that are read

Which rows of characters are whole numbers of a range, and which number each of them is.
-/

namespace TubMonitor
namespace Decimal

def AllDigits (row : List Char) : Prop :=
  forall c, c ∈ row -> c.isDigit = true

theorem allDigits_cons {c : Char} {row : List Char} :
    AllDigits (c :: row) ↔ c.isDigit = true ∧ AllDigits row := by
  simp [AllDigits]

theorem takeWhile_dropWhile {p : Char -> Bool} {digits rest : List Char}
    (hDigits : forall c, c ∈ digits -> p c = true)
    (hEnd : forall c, c ∈ rest.head? -> p c = false) :
    (digits ++ rest).takeWhile p = digits ∧ (digits ++ rest).dropWhile p = rest := by
  rw [List.takeWhile_append_of_pos hDigits, List.dropWhile_append_of_pos hDigits]
  cases rest with
  | nil => simp
  | cons c rest => simp [hEnd c rfl]

/-!
## Digits up to a bound
-/

theorem le_ofDigitChars (row : List Char) (value : Nat) :
    value ≤ Nat.ofDigitChars 10 row value := by
  induction row generalizing value with
  | nil => exact Nat.le_refl value
  | cons c rest ih =>
      have hNext := ih (10 * value + (c.toNat - '0'.toNat))
      exact Nat.le_trans (by omega) hNext

theorem digitsUpTo_ok_iff {bound value n : Nat} {overflow : IntegerFault} {row : List Char}
    (hValue : value ≤ bound) :
    digitsUpTo bound overflow value row = .ok n ↔
      AllDigits row ∧ Nat.ofDigitChars 10 row value = n ∧ n ≤ bound := by
  induction row generalizing value with
  | nil =>
      constructor
      · intro h
        cases h
        exact ⟨by simp [AllDigits], rfl, hValue⟩
      · rintro ⟨_, rfl, _⟩
        rfl
  | cons c rest ih =>
      rw [digitsUpTo, allDigits_cons]
      by_cases hDigit : c.isDigit = true
      · have hShift : digit? c = some (c.toNat - '0'.toNat) := if_pos hDigit
        have hFold : Nat.ofDigitChars 10 (c :: rest) value =
            Nat.ofDigitChars 10 rest (10 * value + (c.toNat - '0'.toNat)) := rfl
        rw [hFold]
        simp only [hShift, hDigit, true_and]
        split
        · next hLarge =>
            -- what follows makes it no smaller
            have hGrows := le_ofDigitChars rest (10 * value + (c.toNat - '0'.toNat))
            constructor
            · intro h
              cases h
            · rintro ⟨_, rfl, hSmall⟩
              exact absurd (Nat.le_trans hGrows hSmall) (Nat.not_le_of_lt hLarge)
        · next hSmall => exact ih (Nat.le_of_not_lt hSmall)
      · have hNone : digit? c = none := if_neg hDigit
        simp [hNone, hDigit]

/-!
## Whole numbers

A plus sign may precede the digits of a natural number, a minus sign those of an integer.
-/

theorem natural_digits {bound n : Nat} {row : List Char} (hSome : row ≠ [])
    (hSign : row.head? ≠ some '+') :
    natural bound row = .ok n ↔ AllDigits row ∧ natOfDigits row = n ∧ n ≤ bound := by
  unfold natural
  split
  · exact absurd rfl hSome
  · exact absurd rfl hSign
  · exact absurd rfl hSign
  · exact digitsUpTo_ok_iff (Nat.zero_le bound)

theorem natural_plus {bound n : Nat} {row : List Char} (hSome : row ≠ []) :
    natural bound ('+' :: row) = .ok n ↔ AllDigits row ∧ natOfDigits row = n ∧ n ≤ bound := by
  cases row with
  | nil => exact absurd rfl hSome
  | cons c rest => exact digitsUpTo_ok_iff (Nat.zero_le bound)

theorem not_allDigits_sign {c : Char} {row : List Char} (hSign : c.isDigit = false) :
    ¬ AllDigits (c :: row) := by
  intro h
  rw [(allDigits_cons.mp h).1] at hSign
  cases hSign

theorem natural_ok_iff {bound n : Nat} {row : List Char} :
    natural bound row = .ok n ↔ exists digits, (row = digits ∨ row = '+' :: digits) ∧
      digits ≠ [] ∧ AllDigits digits ∧ natOfDigits digits = n ∧ n ≤ bound := by
  constructor
  · intro h
    by_cases hSign : row.head? = some '+'
    · rcases List.head?_eq_some_iff.mp hSign with ⟨digits, rfl⟩
      have hSome : digits ≠ [] := by
        rintro rfl
        cases h
      exact ⟨digits, Or.inr rfl, hSome, (natural_plus hSome).mp h⟩
    · have hSome : row ≠ [] := by
        rintro rfl
        cases h
      exact ⟨row, Or.inl rfl, hSome, (natural_digits hSome hSign).mp h⟩
  · rintro ⟨digits, rfl | rfl, hSome, hDigits⟩
    · refine (natural_digits hSome ?_).mpr hDigits
      intro hSign
      rcases List.head?_eq_some_iff.mp hSign with ⟨rest, rfl⟩
      exact not_allDigits_sign rfl hDigits.1
    · exact (natural_plus hSome).mpr hDigits

/-- What a digit row is as an integer, where it is a natural number of a range. -/
theorem integer_of_range {bound : Nat} {row : List Char} {read : Except IntegerFault Nat}
    {sign : Int} {found : Except IntegerFault Int} {m : Int}
    (hRead : forall n, read = .ok n ↔ AllDigits row ∧ natOfDigits row = n ∧ n ≤ bound)
    (hFound : found = read.map fun n : Nat => sign * n) :
    found = .ok m ↔ AllDigits row ∧ sign * natOfDigits row = m ∧ natOfDigits row ≤ bound := by
  rw [hFound]
  cases read with
  | ok n =>
      have hDigits := (hRead n).mp rfl
      simp [Except.map, hDigits.1, hDigits.2.1, hDigits.2.2]
  | error why =>
      constructor
      · intro h
        cases h
      · rintro ⟨hDigits, _, hBound⟩
        cases (hRead _).mpr ⟨hDigits, rfl, hBound⟩

theorem integer_digits {bound : Nat} {m : Int} {row : List Char} (hSome : row ≠ [])
    (hPlus : row.head? ≠ some '+') (hMinus : row.head? ≠ some '-') :
    integer bound row = .ok m ↔
      AllDigits row ∧ 1 * (natOfDigits row : Int) = m ∧ natOfDigits row ≤ bound := by
  have hNatural : integer bound row = (natural bound row).map fun n : Nat => 1 * (n : Int) := by
    unfold integer
    split
    · exact absurd rfl hMinus
    · exact absurd rfl hMinus
    · cases natural bound row with
      | ok n => simp [Except.map, bind, Except.bind, pure, Except.pure]
      | error why => rfl
  exact integer_of_range (fun n => natural_digits hSome hPlus) hNatural

theorem integer_minus {bound : Nat} {m : Int} {row : List Char} (hSome : row ≠ []) :
    integer bound ('-' :: row) = .ok m ↔
      AllDigits row ∧ -1 * (natOfDigits row : Int) = m ∧ natOfDigits row ≤ bound + 1 := by
  have hNatural : integer bound ('-' :: row) =
      (digitsUpTo (bound + 1) .tooSmall 0 row).map fun n : Nat => -1 * (n : Int) := by
    cases row with
    | nil => exact absurd rfl hSome
    | cons c rest =>
        simp only [integer]
        cases digitsUpTo (bound + 1) .tooSmall 0 (c :: rest) with
        | ok n => simp [Except.map, bind, Except.bind, pure, Except.pure]
        | error why => rfl
  exact integer_of_range (fun n => digitsUpTo_ok_iff (Nat.zero_le (bound + 1))) hNatural

end Decimal
end TubMonitor
