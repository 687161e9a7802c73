import Mathlib.Data.List.TakeWhile
import TubMonitor.Proofs.Time.Calendar
import TubMonitor.Time.StampReader
import TubMonitor.Time.Ticker

/-!
# Stamps that are read back

The stamp of an instant is read as that instant again, part by part: each reader takes
off the front what was written there and leaves what follows.
-/

namespace TubMonitor

/-!
## Digits
-/

namespace Decimal

theorem natOfDigits_zeroPadded (width n : Nat) : natOfDigits (zeroPadded width n) = n := by
  unfold natOfDigits zeroPadded padded digitRow
  rw [Nat.ofDigitChars_append, Nat.ofDigitChars_replicate_zero, Nat.mul_zero,
    Nat.ofDigitChars_ten_toDigits]

theorem isDigit_of_mem_zeroPadded {width n : Nat} {c : Char} (h : c ∈ zeroPadded width n) :
    c.isDigit = true := by
  unfold zeroPadded padded digitRow at h
  rcases List.mem_append.mp h with hZero | hDigit
  · rw [(List.mem_replicate.mp hZero).2]
    rfl
  · exact Nat.isDigit_of_mem_toDigits (by decide) (by decide) hDigit

theorem zeroPadded_ne_nil (width n : Nat) : zeroPadded width n ≠ [] := by
  simp [zeroPadded, padded, digitRow, Nat.toDigits_ne_nil]

theorem length_zeroPadded {width n : Nat} (hWidth : 0 < width) (hFits : n < Nat.pow 10 width) :
    (zeroPadded width n).length = width := by
  have hLength := (Nat.length_toDigits_le_iff (b := 10) (by decide) hWidth).mpr hFits
  simp only [zeroPadded, padded, digitRow, List.length_append, List.length_replicate]
  omega

end Decimal

namespace Text

theorem isBlank_of_isDigit {c : Char} (h : c.isDigit = true) : isBlank c = false := by
  simp only [Char.isDigit, Bool.and_eq_true, decide_eq_true_eq] at h
  have hLow : 48 ≤ c.toNat := UInt32.le_iff_toNat_le.mp h.1
  have hHigh : c.toNat ≤ 57 := UInt32.le_iff_toNat_le.mp h.2
  simp [isBlank, inRanges, blankRanges]
  omega

theorem trimStart_cons {c : Char} (row : List Char) (h : isBlank c = false) :
    trimStart (c :: row) = c :: row := by
  simp [trimStart, h]

theorem trimStart_digits {digits : List Char} (rest : List Char) (hSome : digits ≠ [])
    (hDigits : forall c, c ∈ digits -> c.isDigit = true) :
    trimStart (digits ++ rest) = digits ++ rest := by
  cases digits with
  | nil => exact absurd rfl hSome
  | cons c digits => exact trimStart_cons _ (isBlank_of_isDigit (hDigits c (List.mem_cons_self ..)))

end Text

namespace Time

open Decimal (zeroPadded natOfDigits natOfDigits_zeroPadded isDigit_of_mem_zeroPadded
  zeroPadded_ne_nil length_zeroPadded)

/-!
## Numbers and marks
-/

theorem takeWhile_zeroPadded (width n : Nat) {c : Char} (rest : List Char)
    (h : c.isDigit = false) :
    (zeroPadded width n ++ c :: rest).takeWhile Char.isDigit = zeroPadded width n := by
  rw [List.takeWhile_append_of_pos fun _ hMem => isDigit_of_mem_zeroPadded hMem,
    List.takeWhile_cons_of_neg (by simp [h]), List.append_nil]

theorem number?_zeroPadded (width n : Nat) (rest : List Char) (hWidth : 0 < width)
    (hFits : n < Nat.pow 10 width) :
    number? width (zeroPadded width n ++ rest) = some (n, rest) := by
  have hTrim := Text.trimStart_digits rest (zeroPadded_ne_nil width n)
    fun _ hMem => isDigit_of_mem_zeroPadded hMem
  have hLength := length_zeroPadded hWidth hFits
  have hDigits : (zeroPadded width n).takeWhile Char.isDigit = zeroPadded width n :=
    List.takeWhile_eq_self_iff.mpr fun _ hMem => isDigit_of_mem_zeroPadded hMem
  unfold number?
  dsimp only
  rw [hTrim, List.take_left' hLength, hDigits, List.drop_left, natOfDigits_zeroPadded,
    if_neg (by simp [zeroPadded_ne_nil])]

theorem mark?_cons {c : Char} (rest : List Char) (h : Text.isBlank c = false) :
    mark? c (c :: rest) = some rest := by
  simp [mark?, Text.trimStart_cons rest h]

/-!
## Dates
-/

theorem head_ne_of_digits {width n : Nat} {c : Char} {rest row : List Char}
    (hRow : zeroPadded width n ++ rest = c :: row) (hSign : c.isDigit = false) : False := by
  cases hDigits : zeroPadded width n with
  | nil => exact zeroPadded_ne_nil width n hDigits
  | cons first digits =>
      rw [hDigits, List.cons_append, List.cons.injEq] at hRow
      have hDigit : first.isDigit = true := isDigit_of_mem_zeroPadded (hDigits ▸ List.mem_cons_self ..)
      rw [hRow.1, hSign] at hDigit
      cases hDigit

/-- A year of four digits stands without a sign and any other one with it. -/
theorem year?_yearRow (year : Int) (rest : List Char) :
    year? (yearRow year ++ '-' :: rest) = some (year, '-' :: rest) := by
  have hDigits := takeWhile_zeroPadded 4 year.natAbs rest
    (show Char.isDigit '-' = false from rfl)
  have hSome : (zeroPadded 4 year.natAbs).isEmpty = false := by simp [zeroPadded_ne_nil]
  unfold yearRow
  dsimp only
  split
  · next hNegative =>
      have hTrim := Text.trimStart_cons (zeroPadded 4 year.natAbs ++ '-' :: rest)
        (show Text.isBlank '-' = false by decide)
      simp only [year?, List.cons_append, hTrim, hDigits, hSome, List.drop_left,
        natOfDigits_zeroPadded]
      have hYear : -(year.natAbs : Int) = year := by omega
      rw [hYear]
      rfl
  · split
    · next hLow hHigh =>
        have hTrim := Text.trimStart_cons (zeroPadded 4 year.natAbs ++ '-' :: rest)
          (show Text.isBlank '+' = false by decide)
        simp only [year?, List.cons_append, hTrim, hDigits, hSome, List.drop_left,
          natOfDigits_zeroPadded]
        have hYear : (year.natAbs : Int) = year := by omega
        rw [hYear]
        rfl
    · next hLow hHigh =>
        have hTrim := Text.trimStart_digits ('-' :: rest) (zeroPadded_ne_nil 4 year.natAbs)
          fun _ hMem => isDigit_of_mem_zeroPadded hMem
        have hNumber := number?_zeroPadded 4 year.natAbs ('-' :: rest) (by decide)
          (show year.natAbs < 10000 by omega)
        unfold year?
        rw [hTrim]
        split
        · next row hSign => cases head_ne_of_digits hSign (by decide)
        · next row hSign => cases head_ne_of_digits hSign (by decide)
        · have hYear : (year.natAbs : Int) = year := by omega
          rw [hNumber]
          exact congrArg (fun number => some (number, '-' :: rest)) hYear

theorem monthLength_le (year : Int) (month : Nat) : monthLength year month ≤ 31 := by
  unfold monthLength
  repeat' split
  all_goals omega

theorem date?_row {d : Date} (rest : List Char) (h : d.isValid = true) :
    date? (d.row ++ ' ' :: rest) = some (d, ' ' :: rest) := by
  have hValid := h
  simp only [Date.isValid, Bool.and_eq_true, decide_eq_true_eq] at hValid
  have hLength := monthLength_le d.year d.month
  have hMark := fun rest => mark?_cons rest (show Text.isBlank '-' = false by decide)
  have hMonthFits : d.month < 100 := by omega
  have hDayFits : d.day < 100 := by omega
  have hMonth := fun rest => number?_zeroPadded 2 d.month rest (by decide) hMonthFits
  have hDay := fun rest => number?_zeroPadded 2 d.day rest (by decide) hDayFits
  simp only [date?, Date.row, List.append_assoc, List.cons_append, List.nil_append,
    year?_yearRow, hMark, hMonth, hDay, Option.bind_eq_bind, Option.bind_some]
  rw [if_pos h]

/-!
## Times of day
-/

theorem takeWhile_sign {width n : Nat} (rest : List Char) :
    (zeroPadded width n ++ '+' :: rest).takeWhile Char.isDigit = zeroPadded width n :=
  takeWhile_zeroPadded width n rest (by decide)

theorem fraction?_digits {width n : Nat} (rest : List Char) (hWidth : 0 < width) (hNine : width ≤ 9)
    (hFits : n < Nat.pow 10 width) :
    fraction? ('.' :: (zeroPadded width n ++ '+' :: rest)) =
      some (n * Nat.pow 10 (9 - width), '+' :: rest) := by
  have hSome : (zeroPadded width n).isEmpty = false := by simp [zeroPadded_ne_nil]
  have hLength := length_zeroPadded hWidth hFits
  have hTake : (zeroPadded width n).take 9 = zeroPadded width n :=
    List.take_of_length_le (by omega)
  simp only [fraction?, takeWhile_sign, hSome, hTake, natOfDigits_zeroPadded, List.drop_left]
  rw [hLength, if_neg Bool.false_ne_true]

theorem fraction?_row (nanos : Nat) (rest : List Char) (h : nanos < 1000000000) :
    fraction? (fractionRow nanos ++ '+' :: rest) = some (nanos, '+' :: rest) := by
  unfold fractionRow
  split
  · next hZero =>
      rw [hZero]
      rfl
  · split
    · next hMillis =>
        have hFits : nanos / 1000000 < 1000 := by omega
        rw [List.cons_append, fraction?_digits rest (by decide) (by decide) hFits]
        simp
        omega
    · split
      · next hMicros =>
          have hFits : nanos / 1000 < 1000000 := by omega
          rw [List.cons_append, fraction?_digits rest (by decide) (by decide) hFits]
          simp
          omega
      · rw [List.cons_append, fraction?_digits rest (by decide) (by decide) h]
        simp

/-- The nanoseconds fit into a second, or into two where a leap second can be. -/
def Instant.IsProper (t : Instant) : Prop :=
  t.nano < Instant.nanosPerSecond ∨
    (t.nano < 2 * Instant.nanosPerSecond ∧ t.secondOfDay % 60 = 59)

theorem clock?_row {t : Instant} (rest : List Char) (h : t.IsProper) :
    clock? (t.clockRow ++ fractionRow t.fraction ++ '+' :: rest) =
      some (t.secondOfDay.toNat, t.nano, '+' :: rest) := by
  have hDay : 0 ≤ t.secondOfDay ∧ t.secondOfDay < 86400 := by
    unfold Instant.secondOfDay
    omega
  have hProper := h
  unfold Instant.IsProper Instant.nanosPerSecond at hProper
  have hHour : t.hour < 24 := by
    unfold Instant.hour
    omega
  have hMinute : t.minute < 60 := by
    unfold Instant.minute
    omega
  have hShown : t.shownSecond = (t.secondOfDay % 60).toNat + t.nano / 1000000000 := rfl
  have hSecond : t.shownSecond < 100 := by omega
  have hFraction : t.fraction = t.nano % 1000000000 := rfl
  have hMark := fun rest => mark?_cons rest (show Text.isBlank ':' = false by decide)
  have hHours := fun rest =>
    number?_zeroPadded 2 t.hour rest (by decide) (show t.hour < 100 by omega)
  have hMinutes := fun rest =>
    number?_zeroPadded 2 t.minute rest (by decide) (show t.minute < 100 by omega)
  have hSeconds := fun rest => number?_zeroPadded 2 t.shownSecond rest (by decide) hSecond
  have hNanos := fraction?_row t.fraction rest (by omega)
  have hParts : t.hour = (t.secondOfDay / 3600).toNat ∧
      t.minute = (t.secondOfDay / 60 % 60).toNat := ⟨rfl, rfl⟩
  simp only [clock?, Instant.clockRow, List.append_assoc, List.cons_append, List.nil_append,
    hHours, hMinutes, hSeconds, hMark, hNanos, Option.bind_eq_bind, Option.bind_some]
  by_cases hLeap : t.nano < 1000000000
  · rw [if_pos (by omega)]
    simp
    omega
  · rw [if_neg (by omega), if_pos (by omega)]
    unfold Instant.nanosPerSecond
    simp
    omega

/-!
## Whole stamps
-/

theorem zone?_universal :
    zone? (Text.trimStart ['+', '0', '0', ':', '0', '0']) = some (0, []) := by
  decide

namespace Instant

/-- Every instant of the calendar can be told from its stamp. -/
theorem read?_cellStamp {t : Instant} (hProper : t.IsProper) (hCalendar : t.inCalendar = true) :
    read? t.cellStamp = some t := by
  have hRange := hCalendar
  simp only [inCalendar, Bool.and_eq_true, decide_eq_true_eq] at hRange
  unfold firstSecond lastSecond at hRange
  have hValid : t.date.isValid = true := Date.isValid_ofDays (by omega) (by omega)
  have hDays : t.date.toDays = t.second / 86400 := Date.toDays_ofDays _
  have hDay : 0 ≤ t.secondOfDay := by
    unfold secondOfDay
    omega
  have hSecond : 86400 * (t.second / 86400) + (t.secondOfDay.toNat : Int) - 0 = t.second := by
    rw [Int.toNat_of_nonneg hDay]
    unfold secondOfDay
    omega
  have hRow : stampRow ' ' ['+', '0', '0', ':', '0', '0'] t =
      t.date.row ++ ' ' :: (t.clockRow ++ fractionRow t.fraction ++
        '+' :: ['0', '0', ':', '0', '0']) := by
    simp [stampRow]
  have hCells : { second := t.second, nano := t.nano } = t := rfl
  rw [read?, cellStamp, String.toList_ofList, hRow, readRow?, date?_row _ hValid]
  simp only [separator?, clock?_row _ hProper, zone?_universal, hDays, hSecond, or_true, if_true,
    Option.bind_eq_bind, Option.bind_some]
  rw [hCells, hCalendar]
  rfl

end Instant

theorem instantOf_isProper (now : Nat) : (instantOf now).IsProper := by
  left
  simp only [instantOf, Instant.ofMillis, Instant.nanosPerSecond]
  omega

end Time
end TubMonitor
