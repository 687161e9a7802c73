import TubMonitor.Time.Calendar

/-!
# Days and dates

Every day has one date, and the date leads back to it.  Within the calendar the date is
a valid one.
-/

namespace TubMonitor
namespace Time
namespace Date

/-!
## Eras

A day of an era lies in one of four centuries, of which only the last is a day longer, in
one of twenty-five spans of four years, and in one of four years, of which only the last
may have a leap day.
-/

/-- The year of an era that a day of the era lies in. -/
def yearOfEra (dayOfEra : Int) : Int :=
  (dayOfEra - dayOfEra / 1460 + dayOfEra / 36524 - dayOfEra / 146096) / 365

def dayOfYear (dayOfEra : Int) : Int :=
  dayOfEra - (365 * yearOfEra dayOfEra + yearOfEra dayOfEra / 4 - yearOfEra dayOfEra / 100)

/-- A day of an era as so many centuries, spans of four years, years and days. -/
structure Place (d c q k r : Int) : Prop where
  day : d = 36524 * c + 1461 * q + 365 * k + r
  century : 0 ≤ c ∧ c ≤ 3
  span : 0 ≤ q ∧ q ≤ 24
  year : 0 ≤ k ∧ k ≤ 3
  rest : 0 ≤ r ∧ r ≤ 365
  leap : r = 365 -> k = 3 ∧ (q = 24 -> c = 3)

theorem exists_place {d : Int} (hLow : 0 ≤ d) (hHigh : d < 146097) :
    exists c q k r, Place d c q k r := by
  let c := min (d / 36524) 3
  let q := (d - 36524 * c) / 1461
  let s := d - 36524 * c - 1461 * q
  let k := min (s / 365) 3
  refine ⟨c, q, k, s - 365 * k, ?_, ?_, ?_, ?_, ?_, ?_⟩
  all_goals omega

theorem yearOfEra_eq {d c q k r : Int} (h : Place d c q k r) :
    yearOfEra d = 100 * c + 4 * q + k := by
  have ⟨hDay, hCentury, hSpan, hYear, hRest, hLeap⟩ := h
  have hSpans : d / 1460 = 25 * c + q ∨ d / 1460 = 25 * c + q + 1 ∧ 3 ≤ k ∧ 269 ≤ r := by omega
  have hCenturies : d / 36524 - d / 146096 = c := by
    rcases hCentury with ⟨hFrom, hTo⟩
    by_cases hEnd : d = 146096
    · omega
    · have : d < 146096 := by omega
      have : d / 146096 = 0 := by omega
      omega
  unfold yearOfEra
  rcases hSpans with hSpans | ⟨hSpans, _, _⟩
  · omega
  · omega

theorem dayOfYear_eq {d c q k r : Int} (h : Place d c q k r) : dayOfYear d = r := by
  have ⟨hDay, hCentury, hSpan, hYear, hRest, hLeap⟩ := h
  unfold dayOfYear
  rw [yearOfEra_eq h]
  omega

/-!
## Dates
-/

/-- The date that so many centuries, spans, years, months from March and days lead to. -/
def reckoned (era c q k r m : Int) : Date :=
  { year := 400 * era + 100 * c + 4 * q + k + (if m < 10 then 0 else 1)
    month := (if m < 10 then m + 3 else m - 9).toNat
    day := (r - (153 * m + 2) / 5 + 1).toNat }

structure Reckons (days era c q k r m : Int) : Prop where
  place : Place (days + 719468 - 146097 * era) c q k r
  month : 153 * m ≤ 5 * r + 2 ∧ 5 * r + 2 < 153 * (m + 1)

theorem exists_reckons (days : Int) :
    exists era c q k r m, Reckons days era c q k r m ∧ ofDays days = reckoned era c q k r m := by
  have hLow : 0 ≤ (days + 719468) % 146097 := by omega
  have hHigh : (days + 719468) % 146097 < 146097 := by omega
  have hEra : days + 719468 - 146097 * ((days + 719468) / 146097) =
      (days + 719468) % 146097 := by omega
  rcases exists_place hLow hHigh with ⟨c, q, k, r, hPlace⟩
  refine ⟨(days + 719468) / 146097, c, q, k, r, (5 * r + 2) / 153, ⟨?_, by omega⟩, ?_⟩
  · rw [hEra]
    exact hPlace
  · have hYear := yearOfEra_eq hPlace
    have hDay := dayOfYear_eq hPlace
    have hRest := hPlace.rest
    unfold dayOfYear at hDay
    unfold yearOfEra at hYear hDay
    unfold ofDays reckoned
    dsimp only
    rw [hYear] at hDay ⊢
    rw [hDay]
    congr 1
    split <;> split <;> omega

theorem month_reckoned {days era c q k r m : Int} (h : Reckons days era c q k r m) :
    (((reckoned era c q k r m).month : Int) + 9) % 12 = m ∧
      ((reckoned era c q k r m).month ≤ 2 ↔ ¬ m < 10) := by
  have hRest := h.place.rest
  have hMonth := h.month
  unfold reckoned
  dsimp only
  split <;> omega

theorem toDays_reckoned {days era c q k r m : Int} (h : Reckons days era c q k r m) :
    (reckoned era c q k r m).toDays = days := by
  have ⟨hDay, hCentury, hSpan, hYear, hRest, hLeap⟩ := h.place
  have hMonth := h.month
  have ⟨hFromMarch, hEarly⟩ := month_reckoned h
  have hMarch : (if (reckoned era c q k r m).month ≤ 2 then (reckoned era c q k r m).year - 1
      else (reckoned era c q k r m).year) = 400 * era + 100 * c + 4 * q + k := by
    simp only [hEarly]
    unfold reckoned
    dsimp only
    split <;> omega
  have hOfMonth : ((reckoned era c q k r m).day : Int) = r - (153 * m + 2) / 5 + 1 := by
    unfold reckoned
    dsimp only
    omega
  simp only [toDays, hMarch, hFromMarch, hOfMonth]
  have hEras : (400 * era + 100 * c + 4 * q + k) / 400 = era := by omega
  have hYears : (400 * era + 100 * c + 4 * q + k) % 400 = 100 * c + 4 * q + k := by omega
  rw [hEras, hYears]
  omega

theorem isLeapYear_reckoned {days era c q k r m : Int} (h : Reckons days era c q k r m)
    (hLast : r = 365) : isLeapYear (400 * era + 100 * c + 4 * q + k + 1) = true := by
  have ⟨hYear, hSpan⟩ := h.place.leap hLast
  have hCentury := h.place.century
  have hSpans := h.place.span
  simp only [isLeapYear, Bool.and_eq_true, Bool.or_eq_true, beq_iff_eq, bne_iff_ne]
  omega

/-- February has its last day in leap years only, and no other month is cut short. -/
theorem day_reckoned {days era c q k r m : Int} (h : Reckons days era c q k r m) :
    (reckoned era c q k r m).day ≤
      monthLength (reckoned era c q k r m).year (reckoned era c q k r m).month := by
  have hRest := h.place.rest
  have hMonth := h.month
  by_cases hFebruary : m = 11
  · subst hFebruary
    cases hLeap : isLeapYear (400 * era + 100 * c + 4 * q + k + 1) with
    | true =>
        simp [reckoned, monthLength, hLeap]
        omega
    | false =>
        have hShort : r ≠ 365 := fun hLast => by
          rw [isLeapYear_reckoned h hLast] at hLeap
          cases hLeap
        simp [reckoned, monthLength, hLeap]
        omega
  · have hCases : m = 0 ∨ m = 1 ∨ m = 2 ∨ m = 3 ∨ m = 4 ∨ m = 5 ∨ m = 6 ∨ m = 7 ∨ m = 8 ∨
        m = 9 ∨ m = 10 := by omega
    unfold reckoned monthLength
    rcases hCases with rfl | rfl | rfl | rfl | rfl | rfl | rfl | rfl | rfl | rfl | rfl
    all_goals
      simp
      omega

theorem isValid_reckoned {days era c q k r m : Int} (h : Reckons days era c q k r m)
    (hLow : -96465292 ≤ days) (hHigh : days ≤ 95026236) :
    (reckoned era c q k r m).isValid = true := by
  have ⟨hDay, hCentury, hSpan, hYear, hRest, hLeap⟩ := h.place
  have hMonth := h.month
  have hDays := day_reckoned h
  have hFirstYear : -262143 ≤ (reckoned era c q k r m).year := by
    unfold reckoned
    dsimp only
    split <;> omega
  have hLastYear : (reckoned era c q k r m).year ≤ 262142 := by
    -- The last year of the calendar is the year 142 of its era, which is pinned down in turn.
    refine Int.not_lt.mp fun hLater => ?_
    have hAfter : 262142 < 400 * era + 100 * c + 4 * q + k + (if m < 10 then 0 else 1) := hLater
    have hLate : 262142 ≤ 400 * era + 100 * c + 4 * q + k ∧ 306 ≤ r := by
      split at hAfter <;> omega
    have hEra : era = 655 := by omega
    have hCenturies : c = 1 := by omega
    have hSpans : q = 10 := by omega
    omega
  have hMonths : 1 ≤ (reckoned era c q k r m).month ∧ (reckoned era c q k r m).month ≤ 12 := by
    unfold reckoned
    dsimp only
    constructor
    · split <;> omega
    · split <;> omega
  have hFirst : 1 ≤ (reckoned era c q k r m).day := by
    unfold reckoned
    dsimp only
    omega
  simp [isValid, hFirstYear, hLastYear, hMonths, hFirst, hDays]

/-!
## Both directions
-/

theorem toDays_ofDays (days : Int) : (ofDays days).toDays = days := by
  rcases exists_reckons days with ⟨era, c, q, k, r, m, hReckons, hDate⟩
  rw [hDate, toDays_reckoned hReckons]

theorem isValid_ofDays {days : Int} (hLow : -96465292 ≤ days) (hHigh : days ≤ 95026236) :
    (ofDays days).isValid = true := by
  rcases exists_reckons days with ⟨era, c, q, k, r, m, hReckons, hDate⟩
  rw [hDate, isValid_reckoned hReckons hLow hHigh]

end Date
end Time
end TubMonitor
