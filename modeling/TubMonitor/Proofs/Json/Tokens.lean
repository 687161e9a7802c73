import TubMonitor.Json.Printer
import TubMonitor.Json.Reader

/-!
# Tokens that are read back

A text that has been written in quotes is read as that text again, whatever characters it is made
of, and so is a whole number of 64 bits from its digits.
-/

namespace TubMonitor

/-!
## Digits
-/

namespace Decimal

theorem isDigit_of_mem_digitRow {n : Nat} {c : Char} (h : c ∈ digitRow n) : c.isDigit = true :=
  Nat.isDigit_of_mem_toDigits (by decide) (by decide) h

theorem natOfDigits_digitRow (n : Nat) : natOfDigits (digitRow n) = n :=
  Nat.ofDigitChars_ten_toDigits

theorem digitChar_ne_zero : forall d, d < 10 -> 0 < d -> Nat.digitChar d ≠ '0' := by
  decide

theorem digitRow_head {n : Nat} (h : 0 < n) :
    exists first rest, digitRow n = first :: rest ∧ first ≠ '0' := by
  unfold digitRow
  induction n using Nat.strongRecOn with
  | _ n ih =>
      by_cases hSmall : n < 10
      · rw [Nat.toDigits_of_lt_base hSmall]
        exact ⟨Nat.digitChar n, [], rfl, digitChar_ne_zero n hSmall h⟩
      · rcases ih (n / 10) (by omega) (by omega) with ⟨first, rest, hRow, hFirst⟩
        rw [Nat.toDigits_of_base_le (by decide) (Nat.le_of_not_lt hSmall), hRow]
        exact ⟨first, rest ++ [Nat.digitChar (n % 10)], rfl, hFirst⟩

end Decimal

namespace Json

/-!
## Numbers
-/

def Ends (rest : List Char) : Prop :=
  forall c, c ∈ rest.head? -> c.isDigit = false ∧ c ≠ '.' ∧ c ≠ 'e' ∧ c ≠ 'E'

theorem takeWhile_digitRow (n : Nat) {rest : List Char} (h : Ends rest) :
    (Decimal.digitRow n ++ rest).takeWhile Char.isDigit = Decimal.digitRow n ∧
      (Decimal.digitRow n ++ rest).dropWhile Char.isDigit = rest := by
  have hDigits : forall c, c ∈ Decimal.digitRow n -> c.isDigit = true :=
    fun c hMem => Decimal.isDigit_of_mem_digitRow hMem
  rw [List.takeWhile_append_of_pos hDigits, List.dropWhile_append_of_pos hDigits]
  cases rest with
  | nil => simp
  | cons c rest => simp [(h c rfl).1]

theorem whole?_digitRow (n : Nat) {rest : List Char} (h : Ends rest) :
    whole? (Decimal.digitRow n ++ rest) = some (Decimal.digitRow n, rest) := by
  cases n with
  | zero => rfl
  | succ n =>
      rcases Decimal.digitRow_head (Nat.succ_pos n) with ⟨first, digits, hRow, hFirst⟩
      have hTaken := takeWhile_digitRow (n + 1) h
      rw [hRow] at hTaken ⊢
      unfold whole?
      split
      · next tail hZero => exact absurd (List.cons.inj hZero).1 hFirst
      · next row =>
          dsimp only
          rw [hTaken.1, hTaken.2]
          rfl

theorem places?_ends {rest : List Char} (h : Ends rest) : places? rest = some (none, rest) := by
  unfold places?
  split
  · next tail => exact absurd rfl (h '.' rfl).2.1
  · rfl

theorem power?_ends {rest : List Char} (h : Ends rest) : power? rest = some (none, rest) := by
  cases rest with
  | nil => rfl
  | cons c rest =>
      have hMark := (h c rfl).2.2
      rw [power?, if_neg (by simp [hMark])]

def numeralOf (n : Nat) : Numeral :=
  { negative := false
    whole := Decimal.digitRow n
    places := none
    power := none }

theorem value_numeralOf {n : Nat} (h : n ≤ word64) : (numeralOf n).value = .integer n := by
  simp [Numeral.value, Numeral.integer?, numeralOf, Decimal.natOfDigits_digitRow, h]

theorem digitRow_cons (n : Nat) :
    exists c rest, Decimal.digitRow n = c :: rest ∧ c.isDigit = true := by
  cases hRow : Decimal.digitRow n with
  | nil => exact absurd hRow Nat.toDigits_ne_nil
  | cons c rest =>
      exact ⟨c, rest, rfl, Decimal.isDigit_of_mem_digitRow (hRow ▸ List.mem_cons_self ..)⟩

theorem numeral?_digitRow (n : Nat) {rest : List Char} (h : Ends rest) :
    numeral? (Decimal.digitRow n ++ rest) = some (numeralOf n, rest) := by
  have hMinus : minus (Decimal.digitRow n ++ rest) = (false, Decimal.digitRow n ++ rest) := by
    rcases digitRow_cons n with ⟨c, digits, hRow, hDigit⟩
    rw [hRow]
    unfold minus
    split
    · next tail hSign =>
        rw [(List.cons.inj hSign).1] at hDigit
        cases hDigit
    · rfl
  simp [numeral?, hMinus, whole?_digitRow n h, places?_ends h, power?_ends h, numeralOf]

theorem punctuation?_digit {c : Char} (h : c.isDigit = true) : punctuation? c = none := by
  unfold punctuation?
  split <;> first | rfl | cases h

theorem word?_digit {c : Char} (rest : List Char) (h : c.isDigit = true) :
    word? (c :: rest) = none := by
  unfold word?
  split
  · next hWord =>
      rw [(List.cons.inj hWord).1] at h
      cases h
  · next hWord =>
      rw [(List.cons.inj hWord).1] at h
      cases h
  · next hWord =>
      rw [(List.cons.inj hWord).1] at h
      cases h
  · rfl

theorem token?_digitRow (n : Nat) {rest : List Char} (h : Ends rest) :
    token? (Decimal.digitRow n ++ rest) = some (.number (numeralOf n), rest) := by
  have hNumeral := numeral?_digitRow n h
  rcases digitRow_cons n with ⟨c, digits, hRow, hDigit⟩
  rw [hRow, List.cons_append] at hNumeral ⊢
  have hQuote : c ≠ '"' := by
    rintro rfl
    cases hDigit
  unfold token?
  split
  · next hNil => cases hNil
  · next tail hText => exact absurd (List.cons.inj hText).1 hQuote
  · next first tail _ hCons =>
      cases hCons
      rw [punctuation?_digit hDigit, word?_digit _ hDigit, hNumeral]
      rfl

/-!
## Quoted texts
-/

/-- A piece in front of those that are read further on. -/
def ahead (piece : Piece) (read : List Piece × List Char) : List Piece × List Char :=
  (piece :: read.1, read.2)

theorem pieces?_mark {mark c : Char} (rest : List Char) (hMark : mark ≠ 'u')
    (h : escaped? mark = some c) :
    pieces? ('\\' :: mark :: rest) = (pieces? rest).map (ahead (.char c)) := by
  rw [pieces?, h]
  · cases pieces? rest <;> rfl
  · intro a b d e tail hUnit
    exact absurd hUnit hMark

theorem pieces?_plain {c : Char} (rest : List Char) (hQuote : c ≠ '"') (hSlash : c ≠ '\\')
    (hShown : ¬ c.toNat < 0x20) :
    pieces? (c :: rest) = (pieces? rest).map (ahead (.char c)) := by
  rw [pieces?, if_neg (by simp [hShown, hSlash])]
  · cases pieces? rest <;> rfl
  · exact hQuote
  · intro a b d e tail hUnit
    exact absurd hUnit hSlash
  · intro mark tail hUnit
    exact absurd hUnit hSlash

theorem padded_control : forall n, n < 0x20 ->
    (match Decimal.padded 4 (Nat.toDigits 16 n) with
      | [a, b, c, d] => unit? a b c d
      | _ => none) = some n := by
  decide

theorem pieces?_control {n : Nat} (rest : List Char) (h : n < 0x20) :
    pieces? (['\\', 'u'] ++ Decimal.padded 4 (Nat.toDigits 16 n) ++ rest) =
      (pieces? rest).map (ahead (.unit n)) := by
  have hUnit := padded_control n h
  split at hUnit
  · next a b c d hRow =>
      rw [hRow]
      show pieces? ('\\' :: 'u' :: a :: b :: c :: d :: rest) = _
      rw [pieces?, hUnit]
      cases pieces? rest <;> rfl
  · cases hUnit

/-- The characters that are written as a mark behind a backslash. -/
def marked : List Char :=
  ['"', '\\', '\x08', '\x0c', '\n', '\r', '\t']

def pieceOf (c : Char) : Piece :=
  if c.toNat < 0x20 ∧ c ∉ marked then .unit c.toNat else .char c

theorem escapeChar_unmarked {c : Char} (h : c ∉ marked) :
    escapeChar c =
      if c.toNat < 0x20 then
        ['\\', 'u'] ++ Decimal.padded 4 (Nat.toDigits 16 c.toNat)
      else
        [c] := by
  simp only [marked, List.mem_cons, List.not_mem_nil, or_false, not_or] at h
  simp [escapeChar, h]

theorem pieces?_marked {c : Char} (rest : List Char) (h : c ∈ marked) :
    pieces? (escapeChar c ++ rest) = (pieces? rest).map (ahead (.char c)) := by
  simp only [marked, List.mem_cons, List.not_mem_nil, or_false] at h
  rcases h with rfl | rfl | rfl | rfl | rfl | rfl | rfl
  all_goals exact pieces?_mark rest (by decide) rfl

theorem pieces?_escapeChar (c : Char) (rest : List Char) :
    pieces? (escapeChar c ++ rest) = (pieces? rest).map (ahead (pieceOf c)) := by
  unfold pieceOf
  by_cases hMarked : c ∈ marked
  · rw [if_neg fun hBoth => hBoth.2 hMarked]
    exact pieces?_marked rest hMarked
  · rw [escapeChar_unmarked hMarked]
    by_cases hControl : c.toNat < 0x20
    · rw [if_pos hControl, if_pos ⟨hControl, hMarked⟩]
      exact pieces?_control rest hControl
    · rw [if_neg hControl, if_neg fun hBoth => hControl hBoth.1]
      have hPlain : c ≠ '"' ∧ c ≠ '\\' := by
        constructor <;> (rintro rfl; exact hMarked (by decide))
      exact pieces?_plain rest hPlain.1 hPlain.2 hControl

theorem pieces?_row (row rest : List Char) :
    pieces? (row.flatMap escapeChar ++ '"' :: rest) = some (row.map pieceOf, rest) := by
  induction row with
  | nil => rfl
  | cons c row ih =>
      rw [List.flatMap_cons, List.append_assoc, pieces?_escapeChar, ih]
      rfl

theorem assemble?_unit {n : Nat} (rest : List Piece) (h : n < 0x20) :
    assemble? (.unit n :: rest) = (assemble? rest).map fun row => Char.ofNat n :: row := by
  have hHigh : isHighHalf n = false := by
    simp [isHighHalf]
    omega
  have hLow : isLowHalf n = false := by
    simp [isLowHalf]
    omega
  cases rest with
  | nil => simp [assemble?, hHigh, hLow]
  | cons piece rest =>
      cases piece with
      | char c => simp [assemble?, hHigh, hLow]
      | unit low => simp [assemble?, hHigh, hLow]

theorem assemble?_row (row : List Char) : assemble? (row.map pieceOf) = some row := by
  induction row with
  | nil => rfl
  | cons c row ih =>
      have hChar : assemble? (.char c :: row.map pieceOf) = some (c :: row) := by
        rw [assemble?, ih]
        rfl
      rw [List.map_cons, pieceOf]
      split
      · next hControl =>
          rw [assemble?_unit _ hControl.1, ih, Char.ofNat_toNat]
          rfl
      · exact hChar

theorem token?_textRow (s : String) (rest : List Char) :
    token? (textRow s ++ rest) = some (.text (some s), rest) := by
  have hPieces := pieces?_row s.toList rest
  have hText : String.ofList s.toList = s := String.ofList_toList
  show token? ('"' :: (s.toList.flatMap escapeChar ++ ['"'] ++ rest)) = _
  rw [List.append_assoc, List.singleton_append, token?, hPieces]
  simp [assemble?_row, hText]

end Json
end TubMonitor
