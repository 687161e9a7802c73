import TubMonitor.Text.Case

/-!
# Lower case beyond ASCII

Two letters beyond ASCII have a lower case within it: the Kelvin sign becomes a k, and the dotted
capital I an i with a dot above.  So whatever is spelled in ASCII without a k is spelled alike in
lower case, and nothing else becomes so.
-/

namespace TubMonitor
namespace Text

def IsAscii (row : List Char) : Prop :=
  forall c, c ∈ row -> c.toNat < 0x80

/-- ASCII, and no k in it. -/
def Plain (row : List Char) : Prop :=
  forall c, c ∈ row -> c.toNat < 0x80 ∧ c.toLower ≠ 'k'

instance (row : List Char) : Decidable (Plain row) :=
  List.decidableBAll _ row

theorem plain_append {row rest : List Char} (h : Plain row) (hRest : Plain rest) :
    Plain (row ++ rest) := by
  intro c hMem
  rcases List.mem_append.mp hMem with hMem | hMem
  · exact h c hMem
  · exact hRest c hMem

/-!
## Single characters
-/

/-- What holds of the first 128 characters holds of all ASCII. -/
theorem forall_ascii {P : Char -> Prop} (h : forall n, n < 0x80 -> P (Char.ofNat n)) {c : Char}
    (hAscii : c.toNat < 0x80) : P c := by
  have hHere := h c.toNat hAscii
  rwa [Char.ofNat_toNat] at hHere

theorem toLower_foreign {c : Char} (h : 0x80 ≤ c.toNat) : c.toLower = c := by
  have hValue : c.toNat = c.val.toNat := rfl
  unfold Char.toLower
  split
  · next hUpper =>
      have hLast := UInt32.le_iff_toNat_le.mp hUpper.2
      have hZ : 'Z'.val.toNat = 90 := rfl
      omega
  · rfl

theorem toNat_toLower_lt {c : Char} (h : c.toLower.toNat < 0x80) : c.toNat < 0x80 := by
  apply Nat.lt_of_not_le
  intro hForeign
  rw [toLower_foreign hForeign] at h
  omega

theorem toLower_toLower (c : Char) : c.toLower.toLower = c.toLower := by
  by_cases hAscii : c.toNat < 0x80
  · exact forall_ascii (P := fun c => c.toLower.toLower = c.toLower) (by decide) hAscii
  · rw [toLower_foreign (Nat.le_of_not_lt hAscii), toLower_foreign (Nat.le_of_not_lt hAscii)]

theorem map_toLower_map_toLower (row : List Char) :
    (row.map Char.toLower).map Char.toLower = row.map Char.toLower := by
  rw [List.map_map]
  exact List.map_congr_left fun c _ => toLower_toLower c

theorem toNat_lt_of_isDigit {c : Char} (h : c.isDigit = true) : c.toNat < 0x80 := by
  have hRange := Bool.and_eq_true_iff.mp h
  have hLast := UInt32.le_iff_toNat_le.mp (of_decide_eq_true hRange.2)
  have hValue : c.toNat = c.val.toNat := rfl
  have hNine : '9'.val.toNat = 57 := rfl
  omega

theorem toLower_of_isDigit {c : Char} (h : c.isDigit = true) : c.toLower = c :=
  forall_ascii (P := fun c => c.isDigit = true -> c.toLower = c) (by decide)
    (toNat_lt_of_isDigit h) h

theorem toLower_of_not_isLower {c : Char} (h : c.toLower.isLower = false) : c.toLower = c := by
  by_cases hAscii : c.toNat < 0x80
  · exact forall_ascii (P := fun c => c.toLower.isLower = false -> c.toLower = c) (by decide)
      hAscii h
  · exact toLower_foreign (Nat.le_of_not_lt hAscii)

/-- Each run keeps its letters out of ASCII; the only exception is that of the Kelvin sign. -/
theorem lowerRuns_foreign : forall run, run ∈ lowerRuns ->
    run = (0x212a, 0x212a, 1, -8383) ∨
      0x80 ≤ (run.1 : Int) + run.2.2.2 ∧
        ((run.2.1 : Int) + run.2.2.2 < 0xd800 ∨
          0xe000 ≤ (run.1 : Int) + run.2.2.2 ∧ (run.2.1 : Int) + run.2.2.2 < 0x110000) := by
  decide +kernel

theorem toNat_ofNat {n : Nat} (h : n < 0xd800 ∨ 0xe000 ≤ n ∧ n < 0x110000) :
    (Char.ofNat n).toNat = n := by
  have hValid : n.isValidChar := by
    unfold Nat.isValidChar
    omega
  rw [Char.ofNat, dif_pos hValid]
  rfl

theorem lowerChar_foreign {c : Char} (h : 0x80 ≤ c.toNat) :
    lowerChar c = 'k' ∨ 0x80 ≤ (lowerChar c).toNat := by
  unfold lowerChar
  rw [if_neg (Nat.not_lt.mpr h)]
  dsimp only
  split
  · exact Or.inr h
  · next first last stride shift hFind =>
      have hRun := List.find?_some hFind
      simp only [Bool.and_eq_true, decide_eq_true_eq] at hRun
      rcases lowerRuns_foreign _ (List.mem_of_find?_eq_some hFind) with hKelvin | hForeign
      · cases hKelvin
        have hSame : c.toNat = 0x212a := by omega
        rw [hSame]
        exact Or.inl rfl
      · right
        dsimp only at hForeign
        rw [toNat_ofNat (by omega)]
        omega

/-!
## Rows
-/

theorem lowerFrom_cons {before rest : List Char} {c : Char} (hAscii : c.toNat < 0x80) :
    lowerFrom before (c :: rest) = c.toLower :: lowerFrom (c :: before) rest := by
  have hSigma : c ≠ 'Σ' := by
    rintro rfl
    exact absurd hAscii (by decide)
  have hDotted : c ≠ 'İ' := by
    rintro rfl
    exact absurd hAscii (by decide)
  rw [lowerFrom, if_neg hSigma, if_neg hDotted, lowerChar, if_pos hAscii]
  rfl

theorem lowerFrom_ascii {before row : List Char} (h : IsAscii row) :
    lowerFrom before row = row.map Char.toLower := by
  induction row generalizing before with
  | nil => rfl
  | cons c rest ih =>
      rw [lowerFrom_cons (h c List.mem_cons_self),
        ih fun d hMem => h d (List.mem_cons_of_mem _ hMem), List.map_cons]

/-- A character beyond ASCII leaves its trace in lower case. -/
theorem lowerFrom_foreign (before rest : List Char) {c : Char} (h : 0x80 ≤ c.toNat) :
    exists d, d ∈ lowerFrom before (c :: rest) ∧ (d = 'k' ∨ 0x80 ≤ d.toNat) := by
  rw [lowerFrom]
  split
  · split
    · exact ⟨'ς', by simp, by decide⟩
    · exact ⟨'σ', by simp, by decide⟩
  · split
    · exact ⟨'\u0307', by simp, by decide⟩
    · exact ⟨lowerChar c, by simp, lowerChar_foreign h⟩

/-- A row whose lower case is plain has been ASCII all along. -/
theorem ascii_of_lowerFrom {before row : List Char} (h : Plain (lowerFrom before row)) :
    IsAscii row := by
  induction row generalizing before with
  | nil => simp [IsAscii]
  | cons c rest ih =>
      have hAscii : c.toNat < 0x80 := by
        apply Nat.lt_of_not_le
        intro hForeign
        rcases lowerFrom_foreign before rest hForeign with ⟨d, hMem, hTrace⟩
        have hPlain := h d hMem
        rcases hTrace with rfl | hBeyond
        · exact hPlain.2 rfl
        · exact Nat.not_le_of_lt hPlain.1 hBeyond
      rw [lowerFrom_cons hAscii] at h
      intro d hMem
      rcases List.mem_cons.mp hMem with rfl | hMem
      · exact hAscii
      · exact ih (fun e hHere => h e (List.mem_cons_of_mem _ hHere)) d hMem

theorem lower_of_plain {row : List Char} (h : Plain (lower row)) :
    lower row = row.map Char.toLower :=
  lowerFrom_ascii (ascii_of_lowerFrom h)

/-- What is plain and does not depend on the case holds of a row as it does of its lower case. -/
theorem lower_iff {P : List Char -> Prop} (hPlain : forall row, P row -> Plain row)
    (hCase : forall row, P (row.map Char.toLower) ↔ P row) (row : List Char) :
    P (lower row) ↔ P row := by
  constructor
  · intro h
    have hLower := lower_of_plain (hPlain _ h)
    rw [hLower] at h
    exact (hCase row).mp h
  · intro h
    have hLower : lower row = row.map Char.toLower :=
      lowerFrom_ascii fun c hMem => (hPlain row h c hMem).1
    rw [hLower]
    exact (hCase row).mpr h

theorem plain_of_map_toLower {row : List Char} (h : Plain (row.map Char.toLower)) : Plain row := by
  intro c hMem
  have hLower := h c.toLower (List.mem_map_of_mem hMem)
  rw [toLower_toLower] at hLower
  exact ⟨toNat_toLower_lt hLower.1, hLower.2⟩

/-- A plain word in lower case is what comes of its spellings, and of nothing else. -/
theorem lower_eq_iff {row word : List Char} (hPlain : Plain word)
    (hWord : word.map Char.toLower = word) :
    lower row = word ↔ row.map Char.toLower = word := by
  have hSpelled := lower_iff (P := fun row => row.map Char.toLower = word)
    (fun row hRow => plain_of_map_toLower (by rwa [hRow]))
    (fun row => by rw [map_toLower_map_toLower]) row
  rw [← hSpelled]
  constructor
  · intro h
    rw [h, hWord]
  · intro h
    have hRow := hSpelled.mp h
    have hAgain : Plain row := plain_of_map_toLower (by rwa [hRow])
    rw [lower, lowerFrom_ascii fun c hMem => (hAgain c hMem).1]
    exact hRow

/-!
## Rows without letters
-/

/-- No letters with a case, and nothing beyond ASCII. -/
def Caseless (row : List Char) : Prop :=
  forall c, c ∈ row -> c.toNat < 0x80 ∧ c.toLower = c ∧ c.isLower = false

instance (row : List Char) : Decidable (Caseless row) :=
  List.decidableBAll _ row

theorem caseless_append {row rest : List Char} (h : Caseless row) (hRest : Caseless rest) :
    Caseless (row ++ rest) := by
  intro c hMem
  rcases List.mem_append.mp hMem with hMem | hMem
  · exact h c hMem
  · exact hRest c hMem

theorem caseless_digits {row : List Char} (h : forall c, c ∈ row -> c.isDigit = true) :
    Caseless row := by
  intro c hMem
  have hDigit := h c hMem
  exact ⟨toNat_lt_of_isDigit hDigit, toLower_of_isDigit hDigit,
    forall_ascii (P := fun c => c.isDigit = true -> c.isLower = false) (by decide)
      (toNat_lt_of_isDigit hDigit) hDigit⟩

theorem caseless_plain {row : List Char} (h : Caseless row) : Plain row := by
  intro c hMem
  have hHere := h c hMem
  refine ⟨hHere.1, ?_⟩
  rw [hHere.2.1]
  rintro rfl
  exact absurd hHere.2.2 (by decide)

theorem map_toLower_caseless {row : List Char} (h : Caseless row) :
    row.map Char.toLower = row := by
  have hSame := List.map_congr_left (g := id) fun c hMem => (h c hMem).2.1
  rwa [List.map_id] at hSame

theorem eq_of_map_toLower {row caseless : List Char} (hCaseless : Caseless caseless)
    (h : row.map Char.toLower = caseless) : row = caseless := by
  subst h
  have hSame := List.map_congr_left (g := id) (l := row) fun c hMem =>
    toLower_of_not_isLower (hCaseless c.toLower (List.mem_map_of_mem hMem)).2.2
  rw [List.map_id] at hSame
  exact hSame.symm

/-- What holds of caseless rows only does not depend on the case. -/
theorem case_of_caseless {P : List Char -> Prop} (h : forall row, P row -> Caseless row)
    (row : List Char) : P (row.map Char.toLower) ↔ P row := by
  constructor
  · intro hLower
    have hSame := eq_of_map_toLower (h _ hLower) rfl
    rwa [← hSame] at hLower
  · intro hRow
    rwa [map_toLower_caseless (h row hRow)]

end Text
end TubMonitor
