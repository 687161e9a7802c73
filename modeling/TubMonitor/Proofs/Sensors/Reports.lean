import Mathlib.Data.List.TakeWhile
import TubMonitor.Proofs.Decimal.Reading
import TubMonitor.Proofs.Json.Tokens
import TubMonitor.Sensors.Report

/-!
# What a report says

A report is searched twice, and each search finds the leftmost place where its pattern occurs.
Which places these are is told without the search: a checksum is written so and so, a temperature
so and so, and no place further to the left holds another.
-/

namespace TubMonitor
namespace Sensors
namespace Report

/-!
## Leftmost occurrences
-/

/-- This occurs in the row, and nothing of its kind occurs further to the left. -/
def Leftmost (Here : List Char -> α -> Prop) (row : List Char) (found : α) : Prop :=
  exists before rest, row = before ++ rest ∧ Here rest found ∧
    forall front back other, row = front ++ back -> Here back other ->
      before.length ≤ front.length

def Nowhere (Here : List Char -> α -> Prop) (row : List Char) : Prop :=
  forall front back found, row = front ++ back -> ¬ Here back found

section

variable {Here : List Char -> α -> Prop} {pattern : List Char -> Option α}

theorem leftmost_here {row : List Char} {found : α} (h : Here row found) :
    Leftmost Here row found :=
  ⟨[], row, rfl, h, fun _ _ _ _ _ => Nat.zero_le _⟩

theorem leftmost_cons_iff {c : Char} {rest : List Char} {found : α}
    (hNot : forall other, ¬ Here (c :: rest) other) :
    Leftmost Here (c :: rest) found ↔ Leftmost Here rest found := by
  constructor
  · rintro ⟨before, back, hRow, hHere, hFirst⟩
    cases before with
    | nil => exact absurd (hRow ▸ hHere) (hNot found)
    | cons first before =>
        rw [List.cons_append, List.cons.injEq] at hRow
        refine ⟨before, back, hRow.2, hHere, fun front back other hSplit hOther => ?_⟩
        have hLonger := hFirst (c :: front) back other (congrArg (c :: ·) hSplit) hOther
        simpa using hLonger
  · rintro ⟨before, back, rfl, hHere, hFirst⟩
    refine ⟨c :: before, back, rfl, hHere, fun front back other hSplit hOther => ?_⟩
    cases front with
    | nil => exact absurd (hSplit ▸ hOther) (hNot other)
    | cons first front =>
        rw [List.cons_append, List.cons.injEq] at hSplit
        simpa using hFirst front back other hSplit.2 hOther

theorem leftmost_iff (hPattern : forall row found, pattern row = some found ↔ Here row found)
    (row : List Char) (found : α) :
    leftmost pattern row = some found ↔ Leftmost Here row found := by
  induction row with
  | nil =>
      rw [leftmost, hPattern]
      constructor
      · exact leftmost_here
      · rintro ⟨before, rest, hRow, hHere, _⟩
        rcases List.append_eq_nil_iff.mp hRow.symm with ⟨rfl, rfl⟩
        exact hHere
  | cons c rest ih =>
      rw [leftmost]
      cases hHere : pattern (c :: rest) with
      | none =>
          have hNot (other : α) : ¬ Here (c :: rest) other := by
            intro hOther
            rw [(hPattern _ _).mpr hOther] at hHere
            cases hHere
          exact ih.trans (leftmost_cons_iff hNot).symm
      | some here =>
          have hFound := (hPattern _ _).mp hHere
          constructor
          · intro h
            cases h
            exact leftmost_here hFound
          · rintro ⟨before, back, hRow, hBack, hFirst⟩
            -- what stands right here is not to the right of what occurs leftmost
            have hEmpty : before = [] := by
              simpa using hFirst [] (c :: rest) here rfl hFound
            subst hEmpty
            have hAgain := (hPattern _ _).mpr hBack
            rw [← List.nil_append back, ← hRow, hHere] at hAgain
            exact hAgain

theorem leftmost_isSome {back : List Char} (front : List Char)
    (h : (pattern back).isSome = true) : (leftmost pattern (front ++ back)).isSome = true := by
  induction front with
  | nil =>
      cases back with
      | nil => exact h
      | cons c rest =>
          rw [List.nil_append, leftmost]
          cases hHere : pattern (c :: rest) with
          | none =>
              rw [hHere] at h
              cases h
          | some found => rfl
  | cons c front ih =>
      rw [List.cons_append, leftmost]
      split
      · rfl
      · exact ih

theorem leftmost_none_iff (hPattern : forall row found, pattern row = some found ↔ Here row found)
    (row : List Char) : leftmost pattern row = none ↔ Nowhere Here row := by
  constructor
  · rintro hNone front back found rfl hFound
    have hSome : (pattern back).isSome = true := by rw [(hPattern _ _).mpr hFound]; rfl
    have hSearch := leftmost_isSome front hSome
    rw [hNone] at hSearch
    cases hSearch
  · intro h
    cases hFound : leftmost pattern row with
    | none => rfl
    | some found =>
        rcases (leftmost_iff hPattern row found).mp hFound with ⟨before, rest, hRow, hHere, _⟩
        exact absurd hHere (h before rest found hRow)

end

/-!
## Checksums and temperatures
-/

def hexDigits : List Char :=
  "0123456789abcdefABCDEF".toList

/-- A checksum of two digits and whether it held, with anything after it. -/
inductive Checksum : List Char -> Bool -> Prop where
  | held {high low : Char} (hHigh : high ∈ hexDigits) (hLow : low ∈ hexDigits)
      (after : List Char) :
      Checksum ("crc=".toList ++ [high, low, ' '] ++ "YES".toList ++ after) true
  | failed {high low : Char} (hHigh : high ∈ hexDigits) (hLow : low ∈ hexDigits)
      (after : List Char) :
      Checksum ("crc=".toList ++ [high, low, ' '] ++ "NO".toList ++ after) false

/-- A run of digits of any script, as long as it can be. -/
structure DigitRun (digits after : List Char) : Prop where
  some : digits ≠ []
  digits : forall c, c ∈ digits -> Text.isDecimalDigit c = true
  whole : forall c, c ∈ after.head? -> Text.isDecimalDigit c = false

/-- A number as it is written, with its sign and with anything after its digits. -/
inductive Temperature : List Char -> List Char -> Prop where
  | plain {digits after : List Char} (hRun : DigitRun digits after) :
      Temperature ("t=".toList ++ digits ++ after) digits
  | negative {digits after : List Char} (hRun : DigitRun digits after) :
      Temperature ("t=".toList ++ ('-' :: digits) ++ after) ('-' :: digits)

inductive Denotes : List Char -> Int -> Prop where
  | plain {digits : List Char} (hDigits : Decimal.AllDigits digits) :
      Denotes digits (Decimal.natOfDigits digits)
  | negative {digits : List Char} (hDigits : Decimal.AllDigits digits) :
      Denotes ('-' :: digits) (-(Decimal.natOfDigits digits : Int))

def IsLong (m : Int) : Prop :=
  -9223372036854775808 ≤ m ∧ m ≤ 9223372036854775807

/-- The leftmost temperature is this one, in thousandths, and it fits 64 bits. -/
def Tells (row : List Char) (m : Int) : Prop :=
  exists number, Leftmost Temperature row number ∧ Denotes number m ∧ IsLong m

theorem isHexDigit_iff (c : Char) : isHexDigit c = true ↔ c ∈ hexDigits := by
  constructor
  · intro h
    have hSmall : c.toNat < 128 := by
      simp only [isHexDigit, Char.isDigit, Bool.or_eq_true, Bool.and_eq_true, decide_eq_true_eq,
        Char.le_def, UInt32.le_iff_toNat_le] at h
      have hValue : c.toNat = c.val.toNat := rfl
      simp at h
      omega
    have hAll : forall n, n < 128 -> isHexDigit (Char.ofNat n) = true ->
        Char.ofNat n ∈ hexDigits := by decide
    have hHere := hAll c.toNat hSmall
    rw [Char.ofNat_toNat] at hHere
    exact hHere h
  · intro h
    have hAll : hexDigits.all isHexDigit = true := by decide
    exact List.all_eq_true.mp hAll c h

theorem checksumHere_iff (row : List Char) (held : Bool) :
    checksumHere row = some held ↔ Checksum row held := by
  constructor
  · intro h
    unfold checksumHere at h
    split at h
    · next high low verdict =>
        split at h
        · next hHex =>
            rw [Bool.and_eq_true, isHexDigit_iff, isHexDigit_iff] at hHex
            split at h
            · cases h
              exact .held hHex.1 hHex.2 _
            · cases h
              exact .failed hHex.1 hHex.2 _
            · cases h
        · cases h
    · cases h
  · intro h
    cases h with
    | held hHigh hLow after =>
        simp [checksumHere, (isHexDigit_iff _).mpr hHigh, (isHexDigit_iff _).mpr hLow]
    | failed hHigh hLow after =>
        simp [checksumHere, (isHexDigit_iff _).mpr hHigh, (isHexDigit_iff _).mpr hLow]

theorem digitsHere_iff (row digits : List Char) :
    digitsHere row = some digits ↔ exists after, row = digits ++ after ∧ DigitRun digits after := by
  constructor
  · intro h
    have hTaken : row.takeWhile Text.isDecimalDigit = digits ∧ digits ≠ [] := by
      unfold digitsHere at h
      split at h
      · cases h
      · next hSome =>
          cases h
          exact ⟨rfl, hSome⟩
    refine ⟨row.dropWhile Text.isDecimalDigit, ?_, hTaken.2, ?_, ?_⟩
    · rw [← hTaken.1, List.takeWhile_append_dropWhile]
    · intro c hMem
      rw [← hTaken.1] at hMem
      exact List.mem_takeWhile_imp hMem
    · intro c hHead
      have hLast := List.head?_dropWhile_not Text.isDecimalDigit row
      rw [Option.mem_def.mp hHead] at hLast
      exact hLast
  · rintro ⟨after, rfl, hRun⟩
    have hTaken := (Decimal.takeWhile_dropWhile hRun.digits hRun.whole).1
    unfold digitsHere
    rw [hTaken]
    split
    · exact absurd rfl hRun.some
    · rfl

theorem isDecimalDigit_minus : Text.isDecimalDigit '-' = false := by
  decide

/-- A minus sign is no digit, so a run of digits is not taken for a negative number. -/
theorem temperatureHere_plain {digits after : List Char} (hRun : DigitRun digits after) :
    temperatureHere ("t=".toList ++ digits ++ after) = some digits := by
  have hDigits := (digitsHere_iff _ _).mpr ⟨after, rfl, hRun⟩
  cases digits with
  | nil => exact absurd rfl hRun.some
  | cons c digits =>
      have hNe : c ≠ '-' := by
        rintro rfl
        have hDigit := hRun.digits '-' List.mem_cons_self
        rw [isDecimalDigit_minus] at hDigit
        cases hDigit
      have hRow : "t=".toList ++ (c :: digits) ++ after = 't' :: '=' :: c :: (digits ++ after) := rfl
      rw [hRow, temperatureHere, ← hDigits]
      · rfl
      · intro rest hMinus
        exact hNe (List.cons.inj hMinus).1

theorem temperatureHere_iff (row number : List Char) :
    temperatureHere row = some number ↔ Temperature row number := by
  constructor
  · intro h
    unfold temperatureHere at h
    split at h
    · next rest =>
        rcases Option.map_eq_some_iff.mp h with ⟨digits, hDigits, rfl⟩
        rcases (digitsHere_iff _ _).mp hDigits with ⟨after, rfl, hRun⟩
        exact .negative hRun
    · next rest _ =>
        rcases (digitsHere_iff _ _).mp h with ⟨after, rfl, hRun⟩
        exact .plain hRun
    · cases h
  · intro h
    cases h with
    | plain hRun => exact temperatureHere_plain hRun
    | @negative digits after hRun =>
        have hDigits := (digitsHere_iff _ _).mpr ⟨after, rfl, hRun⟩
        simp [temperatureHere, hDigits]

theorem head?_ne_sign {digits after : List Char} (hRun : DigitRun digits after) {sign : Char}
    (hSign : Text.isDecimalDigit sign = false) : digits.head? ≠ some sign := by
  intro hHead
  have hDigit := hRun.digits sign (List.mem_of_mem_head? hHead)
  rw [hSign] at hDigit
  cases hDigit

theorem integer_iff {row number : List Char} (h : Temperature row number) (m : Int) :
    Decimal.integer (Nat.pow 2 63 - 1) number = .ok m ↔
      Denotes number m ∧ IsLong m := by
  have hPower : Nat.pow 2 63 = 9223372036854775808 := rfl
  unfold IsLong
  cases h with
  | plain hRun =>
      rw [Decimal.integer_digits hRun.some (head?_ne_sign hRun (by decide))
        (head?_ne_sign hRun isDecimalDigit_minus)]
      constructor
      · rintro ⟨hDigits, rfl, hBound⟩
        rw [Int.one_mul]
        exact ⟨.plain hDigits, by omega, by omega⟩
      · rintro ⟨hDenotes, _, hHigh⟩
        cases hDenotes with
        | plain hDigits => exact ⟨hDigits, Int.one_mul _, by omega⟩
        | negative hDigits => exact absurd rfl (head?_ne_sign hRun isDecimalDigit_minus)
  | negative hRun =>
      rw [Decimal.integer_minus hRun.some]
      constructor
      · rintro ⟨hDigits, rfl, hBound⟩
        rw [Int.neg_one_mul]
        exact ⟨.negative hDigits, by omega, by omega⟩
      · rintro ⟨hDenotes, hLow, _⟩
        cases hDenotes with
        | plain hDigits => exact absurd hDigits (Decimal.not_allDigits_sign rfl)
        | negative hDigits => exact ⟨hDigits, Int.neg_one_mul _, by omega⟩

/-!
## What is read off a report
-/

theorem tells_iff {row : List Char} {m : Int} :
    Tells row m ↔ exists number, leftmost temperatureHere row = some number ∧
      Decimal.integer (Nat.pow 2 63 - 1) number = .ok m := by
  constructor
  · rintro ⟨number, hLeftmost, hNumber⟩
    have hHere := hLeftmost
    rcases hHere with ⟨_, _, _, hTemperature, _⟩
    exact ⟨number, (leftmost_iff temperatureHere_iff row number).mpr hLeftmost,
      (integer_iff hTemperature m).mpr hNumber⟩
  · rintro ⟨number, hSearch, hInteger⟩
    have hLeftmost := (leftmost_iff temperatureHere_iff row number).mp hSearch
    have hHere := hLeftmost
    rcases hHere with ⟨_, _, _, hTemperature, _⟩
    exact ⟨number, hLeftmost, (integer_iff hTemperature m).mp hInteger⟩

/-- The searches of a report, and what comes of each way in which they can end. -/
theorem thousandths_iff (row : List Char) :
    (forall m, thousandths row = .ok m ↔ Leftmost Checksum row true ∧ Tells row m) ∧
    (thousandths row = .error .missingChecksum ↔ Nowhere Checksum row) ∧
    (thousandths row = .error .failedChecksum ↔ Leftmost Checksum row false) ∧
    (thousandths row = .error .missingTemperature ↔
      Leftmost Checksum row true ∧ Nowhere Temperature row) ∧
    ((exists why, thousandths row = .error (.badTemperature why)) ↔
      Leftmost Checksum row true ∧ (exists number, Leftmost Temperature row number) ∧
        ¬ exists m, Tells row m) := by
  simp only [tells_iff, ← leftmost_iff checksumHere_iff, ← leftmost_none_iff checksumHere_iff,
    ← leftmost_iff temperatureHere_iff, ← leftmost_none_iff temperatureHere_iff]
  unfold thousandths
  cases leftmost checksumHere row with
  | none => simp
  | some held =>
      cases held with
      | false => simp
      | true =>
          cases leftmost temperatureHere row with
          | none => simp
          | some number =>
              cases hInteger : Decimal.integer (Nat.pow 2 63 - 1) number <;> simp [hInteger]

theorem celsius_ok_iff {text : String} {x : Float} :
    celsius text = .ok x ↔
      exists m, thousandths text.toList = .ok m ∧ x = Float.ofInt m / 1000.0 := by
  unfold celsius
  cases thousandths text.toList with
  | ok m => simp [Except.map, eq_comm]
  | error problem => simp [Except.map]

theorem celsius_error_iff {text : String} {problem : Problem} :
    celsius text = .error problem ↔ thousandths text.toList = .error problem := by
  unfold celsius
  cases thousandths text.toList <;> simp [Except.map]

/-!
## Reports of the driver

The driver writes the bytes of the probe in both lines.
-/

structure HexByte where
  high : Char
  low : Char
  highDigit : high ∈ hexDigits
  lowDigit : low ∈ hexDigits

def bytesRow (bytes : List HexByte) : List Char :=
  bytes.flatMap fun byte => [byte.high, byte.low, ' ']

def driverReport (bytes : List HexByte) (crc : HexByte) (held : Bool) (m : Int) : List Char :=
  (bytesRow bytes ++ ": ".toList) ++
    ("crc=".toList ++ [crc.high, crc.low, ' '] ++ (if held then "YES" else "NO").toList ++
      ("\n".toList ++ bytesRow bytes ++
        ("t=".toList ++ Decimal.integerRow m ++ "\n".toList)))

theorem mem_bytesRow {bytes : List HexByte} {c : Char} (h : c ∈ bytesRow bytes) :
    c ∈ hexDigits ∨ c = ' ' := by
  rcases List.mem_flatMap.mp h with ⟨byte, _, hMem⟩
  simp only [List.mem_cons, List.not_mem_nil, or_false] at hMem
  rcases hMem with rfl | rfl | rfl
  · exact Or.inl byte.highDigit
  · exact Or.inl byte.lowDigit
  · exact Or.inr rfl

theorem not_mem_bytesRow (bytes : List HexByte) {c : Char} (hHex : c ∉ hexDigits)
    (hBlank : c ≠ ' ') : c ∉ bytesRow bytes := by
  intro hMem
  rcases mem_bytesRow hMem with hDigit | hSpace
  · exact hHex hDigit
  · exact hBlank hSpace

/-- A pattern that has a mark at a fixed place does not occur where there is no such mark. -/
theorem leftmost_of_mark {Here : List Char -> α -> Prop} {before rest : List Char} {found : α}
    {mark : Char} (offset : Nat) (hHere : Here rest found)
    (hMarked : forall back other, Here back other -> back[offset]? = some mark)
    (hFree : mark ∉ before ++ rest.take offset) : Leftmost Here (before ++ rest) found := by
  refine ⟨before, rest, rfl, hHere, fun front back other hSplit hOther => ?_⟩
  apply Nat.le_of_not_lt
  intro hEarlier
  have hMark : (before ++ rest)[front.length + offset]? = some mark := by
    rw [hSplit, List.getElem?_append_right (Nat.le_add_right ..), Nat.add_sub_cancel_left]
    exact hMarked back other hOther
  have hTaken : (before ++ rest).take (before.length + offset) = before ++ rest.take offset := by
    rw [List.take_length_add_append]
  rw [← List.getElem?_take_of_lt (by omega : front.length + offset < before.length + offset),
    hTaken] at hMark
  exact hFree (List.mem_of_getElem? hMark)

theorem checksum_mark {back : List Char} {held : Bool} (h : Checksum back held) :
    back[1]? = some 'r' := by
  cases h <;> rfl

theorem temperature_mark {back number : List Char} (h : Temperature back number) :
    back[0]? = some 't' := by
  cases h <;> rfl

theorem driverReport_checksum (bytes : List HexByte) (crc : HexByte) (held : Bool) (m : Int) :
    Leftmost Checksum (driverReport bytes crc held m) held := by
  have hBytes : 'r' ∉ bytesRow bytes := not_mem_bytesRow bytes (by decide) (by decide)
  refine leftmost_of_mark 1 ?_ (fun _ _ => checksum_mark) (by simp [hBytes])
  cases held with
  | true => exact .held crc.highDigit crc.lowDigit _
  | false => exact .failed crc.highDigit crc.lowDigit _

theorem isDecimalDigit_of_isDigit {c : Char} (h : c.isDigit = true) :
    Text.isDecimalDigit c = true := by
  have hRange : 48 ≤ c.toNat ∧ c.toNat ≤ 57 := by
    simpa [Char.isDigit, UInt32.le_iff_toNat_le] using h
  simp [Text.isDecimalDigit, Text.inRanges, Text.decimalDigitRanges, hRange]

theorem digitRun_digitRow (n : Nat) : DigitRun (Decimal.digitRow n) "\n".toList where
  some := Nat.toDigits_ne_nil
  digits _ hMem := isDecimalDigit_of_isDigit (Decimal.isDigit_of_mem_digitRow hMem)
  whole := by
    intro c hHead
    cases hHead
    decide

theorem allDigits_digitRow (n : Nat) : Decimal.AllDigits (Decimal.digitRow n) :=
  fun _ hMem => Decimal.isDigit_of_mem_digitRow hMem

/-- A number that the driver writes is read as that number. -/
theorem integerRow_told (m : Int) :
    Temperature ("t=".toList ++ Decimal.integerRow m ++ "\n".toList) (Decimal.integerRow m) ∧
      Denotes (Decimal.integerRow m) m := by
  unfold Decimal.integerRow
  have hValue := Decimal.natOfDigits_digitRow m.natAbs
  by_cases hNegative : m < 0
  · rw [if_pos hNegative]
    have hNumber : m = -(Decimal.natOfDigits (Decimal.digitRow m.natAbs) : Int) := by omega
    refine ⟨.negative (digitRun_digitRow _), ?_⟩
    have hDenotes := Denotes.negative (allDigits_digitRow m.natAbs)
    rwa [← hNumber] at hDenotes
  · rw [if_neg hNegative]
    have hNumber : m = (Decimal.natOfDigits (Decimal.digitRow m.natAbs) : Int) := by omega
    refine ⟨.plain (digitRun_digitRow _), ?_⟩
    have hDenotes := Denotes.plain (allDigits_digitRow m.natAbs)
    rwa [← hNumber] at hDenotes

theorem driverReport_tells (bytes : List HexByte) (crc : HexByte) (held : Bool) {m : Int}
    (hLong : IsLong m) : Tells (driverReport bytes crc held m) m := by
  have hTold := integerRow_told m
  refine ⟨Decimal.integerRow m, ?_, hTold.2, hLong⟩
  have hBytes : 't' ∉ bytesRow bytes := not_mem_bytesRow bytes (by decide) (by decide)
  have hHex : 't' ∉ hexDigits := by decide
  have hCrc : 't' ≠ crc.high ∧ 't' ≠ crc.low :=
    ⟨fun hSame => hHex (hSame ▸ crc.highDigit), fun hSame => hHex (hSame ▸ crc.lowDigit)⟩
  have hVerdict : 't' ∉ (if held then "YES" else "NO").toList := by
    cases held <;> decide
  have hSplit : driverReport bytes crc held m =
      (bytesRow bytes ++ ": crc=".toList ++ [crc.high, crc.low, ' '] ++
        (if held then "YES" else "NO").toList ++ "\n".toList ++ bytesRow bytes) ++
      ("t=".toList ++ Decimal.integerRow m ++ "\n".toList) := by
    simp [driverReport]
  rw [hSplit]
  exact leftmost_of_mark 0 hTold.1 (fun _ _ => temperature_mark)
    (by simp [hBytes, hCrc, hVerdict])

/-!
## Reading reports
-/

/--
A report is read where its leftmost checksum has held and its leftmost temperature is a number of
64 bits in ASCII digits; otherwise the first of these that is amiss is told.
-/
theorem report_law :
    (forall text : String,
      (forall x, celsius text = .ok x ↔ Leftmost Checksum text.toList true ∧
        exists m, Tells text.toList m ∧ x = Float.ofInt m / 1000.0) ∧
      (celsius text = .error .missingChecksum ↔ Nowhere Checksum text.toList) ∧
      (celsius text = .error .failedChecksum ↔ Leftmost Checksum text.toList false) ∧
      (celsius text = .error .missingTemperature ↔
        Leftmost Checksum text.toList true ∧ Nowhere Temperature text.toList) ∧
      ((exists why, celsius text = .error (.badTemperature why)) ↔
        Leftmost Checksum text.toList true ∧
          (exists number, Leftmost Temperature text.toList number) ∧
          ¬ exists m, Tells text.toList m)) ∧
    forall (bytes : List HexByte) (crc : HexByte) (m : Int), IsLong m ->
      celsius (String.ofList (driverReport bytes crc true m)) = .ok (Float.ofInt m / 1000.0) ∧
      celsius (String.ofList (driverReport bytes crc false m)) = .error .failedChecksum := by
  have hRead (text : String) (x : Float) : celsius text = .ok x ↔
      Leftmost Checksum text.toList true ∧
        exists m, Tells text.toList m ∧ x = Float.ofInt m / 1000.0 := by
    simp only [celsius_ok_iff, (thousandths_iff text.toList).1, and_assoc, exists_and_left]
  constructor
  · intro text
    simp only [celsius_error_iff]
    exact ⟨hRead text, (thousandths_iff text.toList).2⟩
  · intro bytes crc m hLong
    constructor
    · refine (hRead _ _).mpr ?_
      rw [String.toList_ofList]
      exact ⟨driverReport_checksum bytes crc true m, m,
        driverReport_tells bytes crc true hLong, rfl⟩
    · rw [celsius_error_iff, String.toList_ofList, (thousandths_iff _).2.2.1]
      exact driverReport_checksum bytes crc false m

def roomBytes : List HexByte :=
  [ ⟨'7', '2', by decide, by decide⟩, ⟨'0', '1', by decide, by decide⟩
  , ⟨'4', 'b', by decide, by decide⟩, ⟨'4', '6', by decide, by decide⟩
  , ⟨'7', 'f', by decide, by decide⟩, ⟨'f', 'f', by decide, by decide⟩
  , ⟨'0', 'e', by decide, by decide⟩, ⟨'1', '0', by decide, by decide⟩
  , ⟨'5', '7', by decide, by decide⟩ ]

/-- The report that the driver is documented with. -/
theorem report_law_room :
    celsius "72 01 4b 46 7f ff 0e 10 57 : crc=57 YES\n72 01 4b 46 7f ff 0e 10 57 t=23125\n" =
      .ok (Float.ofInt 23125 / 1000.0) := by
  have hLong : IsLong 23125 := ⟨by decide, by decide⟩
  have hRead := (report_law.2 roomBytes ⟨'5', '7', by decide, by decide⟩ 23125 hLong).1
  have hText : String.ofList
      (driverReport roomBytes ⟨'5', '7', by decide, by decide⟩ true 23125) =
        "72 01 4b 46 7f ff 0e 10 57 : crc=57 YES\n72 01 4b 46 7f ff 0e 10 57 t=23125\n" := by
    decide +kernel
  rwa [hText] at hRead

end Report
end Sensors
end TubMonitor
