import TubMonitor.Proofs.Decimal.Reading
import TubMonitor.Proofs.Text.Case

/-!
# The grammar of decimal literals

A literal is an optional sign before one of the words for the special values or before digits with
at most one point and an optional exponent.  Case does not matter in it.
-/

namespace TubMonitor
namespace Decimal

inductive Sign : List Char -> Bool -> Prop where
  | absent : Sign [] false
  | plus : Sign ['+'] false
  | minus : Sign ['-'] true

/-- The digits of a number, and how many of them stand after the point. -/
inductive Mantissa : List Char -> List Char -> Nat -> Prop where
  | whole {digits : List Char} (hSome : digits ≠ []) (hDigits : AllDigits digits) :
      Mantissa digits digits 0
  | pointed {whole places : List Char} (hSome : whole ++ places ≠ [])
      (hDigits : AllDigits (whole ++ places)) :
      Mantissa (whole ++ '.' :: places) (whole ++ places) places.length

inductive Exponent : List Char -> Int -> Prop where
  | absent : Exponent [] 0
  | power {mark : Char} {sign digits : List Char} {negative : Bool} (hMark : mark.toLower = 'e')
      (hSign : Sign sign negative) (hSome : digits ≠ []) (hDigits : AllDigits digits) :
      Exponent (mark :: (sign ++ digits))
        (if negative then -(natOfDigits digits : Int) else natOfDigits digits)

inductive Spells : List Char -> Literal -> Prop where
  | infinite {sign word : List Char} {negative : Bool} (hSign : Sign sign negative)
      (hWord : word.map Char.toLower = "inf".toList ∨
        word.map Char.toLower = "infinity".toList) :
      Spells (sign ++ word) (.infinite negative)
  | nan {sign word : List Char} {negative : Bool} (hSign : Sign sign negative)
      (hWord : word.map Char.toLower = "nan".toList) : Spells (sign ++ word) .nan
  | number {sign mantissa digits power : List Char} {negative : Bool} {places : Nat}
      {exponent : Int} (hSign : Sign sign negative) (hMantissa : Mantissa mantissa digits places)
      (hPower : Exponent power exponent) :
      Spells (sign ++ (mantissa ++ power))
        (.number negative (natOfDigits digits) (exponent - places))

/-!
## Signs
-/

theorem signed_sign (row : List Char) :
    exists sign, Sign sign (signed row).1 ∧ row = sign ++ (signed row).2 := by
  unfold signed
  split
  · exact ⟨['-'], .minus, rfl⟩
  · exact ⟨['+'], .plus, rfl⟩
  · exact ⟨[], .absent, rfl⟩

theorem signed_append {sign row : List Char} {negative : Bool} (hSign : Sign sign negative)
    (hPlus : row.head? ≠ some '+') (hMinus : row.head? ≠ some '-') :
    signed (sign ++ row) = (negative, row) := by
  cases hSign with
  | plus => rfl
  | minus => rfl
  | absent =>
      rw [List.nil_append]
      unfold signed
      split
      · exact absurd rfl hMinus
      · exact absurd rfl hPlus
      · rfl

theorem head?_ne_of_allDigits {row : List Char} (h : AllDigits row) {c : Char}
    (hDigit : c.isDigit = false) : row.head? ≠ some c := by
  intro hHead
  have hFirst := h c (List.mem_of_mem_head? hHead)
  rw [hDigit] at hFirst
  cases hFirst

/-!
## Exponents
-/

theorem toLower_eq_e {c : Char} : c.toLower = 'e' ↔ (c == 'e' || c == 'E') = true := by
  by_cases hAscii : c.toNat < 0x80
  · exact Text.forall_ascii
      (P := fun c => c.toLower = 'e' ↔ (c == 'e' || c == 'E') = true) (by decide) hAscii
  · rw [Text.toLower_foreign (Nat.le_of_not_lt hAscii)]
    have hCapital : c ≠ 'E' := by
      rintro rfl
      exact hAscii (by decide)
    simp [hCapital]

theorem exponent?_iff {row : List Char} {exponent : Int} :
    exponent? row = some exponent ↔ Exponent row exponent := by
  constructor
  · intro h
    cases row with
    | nil =>
        cases h
        exact .absent
    | cons mark rest =>
        rcases signed_sign rest with ⟨sign, hSign, hRest⟩
        unfold exponent? at h
        dsimp only at h
        split at h
        · next hPower =>
            simp only [Bool.and_eq_true, List.all_eq_true] at hPower
            cases h
            have hExponent := Exponent.power (toLower_eq_e.mpr hPower.1.1) hSign
              (by simpa using hPower.1.2) hPower.2
            rwa [← hRest] at hExponent
        · cases h
  · intro h
    cases h with
    | absent => rfl
    | @power mark sign digits negative hMark hSign hSome hDigits =>
        have hSigned := signed_append hSign (head?_ne_of_allDigits hDigits (c := '+') rfl)
          (head?_ne_of_allDigits hDigits rfl)
        have hPower : ((mark == 'e' || mark == 'E') && !digits.isEmpty &&
            digits.all Char.isDigit) = true := by
          rw [Bool.and_eq_true, Bool.and_eq_true, List.all_eq_true]
          exact ⟨⟨toLower_eq_e.mp hMark, by simpa using hSome⟩, hDigits⟩
        simp only [exponent?, hSigned, hPower, if_true]

/-!
## Digits with a point
-/

theorem exponent_ends {row : List Char} {exponent : Int} (h : Exponent row exponent) :
    forall c, c ∈ row.head? -> c.isDigit = false ∧ c ≠ '.' := by
  intro c hHead
  cases h with
  | absent => cases hHead
  | power hMark =>
      cases hHead
      constructor
      · apply Bool.eq_false_iff.mpr
        intro hDigit
        rw [Text.toLower_of_isDigit hDigit] at hMark
        subst hMark
        cases hDigit
      · rintro rfl
        cases hMark

theorem fraction_plain {row : List Char} (h : row.head? ≠ some '.') : fraction row = ([], row) := by
  unfold fraction
  split
  · exact absurd rfl h
  · rfl

theorem unsigned?_number {negative : Bool} {mantissa digits power : List Char} {places : Nat}
    {exponent : Int} (hMantissa : Mantissa mantissa digits places)
    (hPower : Exponent power exponent) :
    Literal.unsigned? negative (mantissa ++ power) =
      some (.number negative (natOfDigits digits) (exponent - places)) := by
  have hEnds := exponent_ends hPower
  have hExponent := exponent?_iff.mpr hPower
  cases hMantissa with
  | whole hSome hDigits =>
      have hWhole := takeWhile_dropWhile hDigits fun c hHead => (hEnds c hHead).1
      have hFraction : fraction power = ([], power) :=
        fraction_plain fun hPoint => (hEnds '.' hPoint).2 rfl
      simp [Literal.unsigned?, hWhole.1, hWhole.2, hFraction, hSome, hExponent]
  | @pointed whole places hSome hDigits =>
      have hPoint : forall c, c ∈ ('.' :: (places ++ power)).head? -> c.isDigit = false := by
        simp
      have hWhole := takeWhile_dropWhile
        (fun c hMem => hDigits c (List.mem_append_left _ hMem)) hPoint
      have hPlaces := takeWhile_dropWhile
        (fun c hMem => hDigits c (List.mem_append_right _ hMem)) fun c hHead => (hEnds c hHead).1
      have hFraction : fraction ('.' :: (places ++ power)) = (places, power) := by
        rw [fraction, hPlaces.1, hPlaces.2]
      have hEither : ¬ (whole = [] ∧ places = []) := by
        rintro ⟨rfl, rfl⟩
        exact hSome rfl
      have hRow : whole ++ '.' :: places ++ power = whole ++ '.' :: (places ++ power) := by simp
      simp [Literal.unsigned?, hRow, hWhole.1, hWhole.2, hFraction, hEither, hExponent]

theorem allDigits_takeWhile (row : List Char) : AllDigits (row.takeWhile Char.isDigit) := by
  intro c hMem
  exact List.all_eq_true.mp List.all_takeWhile c hMem

theorem fraction_parts (row : List Char) :
    row = '.' :: ((fraction row).1 ++ (fraction row).2) ∧ AllDigits (fraction row).1 ∨
      row = (fraction row).2 ∧ (fraction row).1 = [] := by
  unfold fraction
  split
  · next rest =>
      refine Or.inl ⟨?_, allDigits_takeWhile rest⟩
      rw [List.takeWhile_append_dropWhile]
  · exact Or.inr ⟨rfl, rfl⟩

theorem unsigned?_some {negative : Bool} {row : List Char} {literal : Literal}
    (h : Literal.unsigned? negative row = some literal) :
    exists mantissa digits places power exponent, row = mantissa ++ power ∧
      Mantissa mantissa digits places ∧ Exponent power exponent ∧
      literal = .number negative (natOfDigits digits) (exponent - (places : Nat)) := by
  have hRow : row = row.takeWhile Char.isDigit ++ row.dropWhile Char.isDigit :=
    List.takeWhile_append_dropWhile.symm
  have hWhole := allDigits_takeWhile row
  have hParts := fraction_parts (row.dropWhile Char.isDigit)
  rcases hFraction : fraction (row.dropWhile Char.isDigit) with ⟨places, rest⟩
  simp only [Literal.unsigned?, hFraction] at h hParts
  generalize row.takeWhile Char.isDigit = whole at h hRow hWhole
  generalize row.dropWhile Char.isDigit = tail at hRow hParts
  split at h
  · cases h
  · next hDigits =>
      rcases Option.map_eq_some_iff.mp h with ⟨exponent, hExponent, rfl⟩
      have hSome : whole ++ places ≠ [] := by simpa using hDigits
      have hPower := exponent?_iff.mp hExponent
      rcases hParts with ⟨rfl, hPlaces⟩ | ⟨rfl, rfl⟩
      · have hAll : AllDigits (whole ++ places) := by
          intro c hMem
          rcases List.mem_append.mp hMem with hMem | hMem
          · exact hWhole c hMem
          · exact hPlaces c hMem
        exact ⟨whole ++ '.' :: places, _, places.length, rest, exponent, by simp [hRow],
          .pointed hSome hAll, hPower, rfl⟩
      · rw [List.append_nil] at hSome ⊢
        exact ⟨whole, whole, 0, _, exponent, hRow, .whole hSome hWhole, hPower, rfl⟩

/-!
## Literals
-/

theorem word_eq_iff {row : List Char} {word : String} :
    String.ofList (row.map Char.toLower) = word ↔ row.map Char.toLower = word.toList := by
  constructor
  · rintro rfl
    rw [String.toList_ofList]
  · intro h
    rw [h, String.ofList_toList]

theorem head?_ne_of_map {row : List Char} {word : List Char} {c : Char}
    (h : row.map Char.toLower = word) (hNe : word.head? ≠ some c.toLower) : row.head? ≠ some c := by
  intro hHead
  rw [← h, List.head?_map, hHead] at hNe
  exact hNe rfl

theorem mantissa_starts {mantissa digits : List Char} {places : Nat}
    (h : Mantissa mantissa digits places) :
    exists c rest, mantissa = c :: rest ∧ (c.isDigit = true ∨ c = '.') := by
  cases h with
  | whole hSome hDigits =>
      rcases List.exists_cons_of_ne_nil hSome with ⟨c, rest, rfl⟩
      exact ⟨c, rest, rfl, Or.inl (hDigits c List.mem_cons_self)⟩
  | @pointed whole places hSome hDigits =>
      cases whole with
      | nil => exact ⟨'.', places, rfl, Or.inr rfl⟩
      | cons c whole => exact ⟨c, _, rfl, Or.inl (hDigits c (by simp))⟩

theorem read?_signed {row rest : List Char} {negative : Bool}
    (h : signed row = (negative, rest)) :
    Literal.read? row =
      if rest.map Char.toLower = "inf".toList ∨ rest.map Char.toLower = "infinity".toList then
        some (.infinite negative)
      else if rest.map Char.toLower = "nan".toList then
        some .nan
      else
        Literal.unsigned? negative rest := by
  simp only [Literal.read?, h, word_eq_iff]

theorem spells_of_read? {row : List Char} {literal : Literal}
    (h : Literal.read? row = some literal) : Spells row literal := by
  rcases signed_sign row with ⟨sign, hSign, hRow⟩
  generalize hNegative : (signed row).1 = negative at hSign
  generalize hRest : (signed row).2 = rest at hRow
  rw [read?_signed (Prod.ext hNegative hRest)] at h
  subst hRow
  split at h
  · next hWord =>
      cases h
      exact .infinite hSign hWord
  · split at h
    · next hWord =>
        cases h
        exact .nan hSign hWord
    · rcases unsigned?_some h with
        ⟨mantissa, digits, places, power, exponent, rfl, hMantissa, hPower, rfl⟩
      exact .number hSign hMantissa hPower

/-- A word has a letter in front, so it is neither signed nor a number. -/
theorem signed_word {sign row word : List Char} {negative : Bool} (hSign : Sign sign negative)
    (hWord : row.map Char.toLower = word) (hPlus : word.head? ≠ some '+')
    (hMinus : word.head? ≠ some '-') : signed (sign ++ row) = (negative, row) :=
  signed_append hSign (head?_ne_of_map hWord hPlus) (head?_ne_of_map hWord hMinus)

theorem read?_of_spells {row : List Char} {literal : Literal} (h : Spells row literal) :
    Literal.read? row = some literal := by
  cases h with
  | infinite hSign hWord =>
      have hSigned := hWord.elim
        (fun hInf => signed_word hSign hInf (by decide) (by decide))
        (fun hInfinity => signed_word hSign hInfinity (by decide) (by decide))
      rw [read?_signed hSigned, if_pos hWord]
  | nan hSign hWord =>
      rw [read?_signed (signed_word hSign hWord (by decide) (by decide)), if_neg (by simp [hWord]),
        if_pos hWord]
  | @number sign mantissa digits power negative places exponent hSign hMantissa hPower =>
      rcases mantissa_starts hMantissa with ⟨c, rest, hRow, hFirst⟩
      have hLower : c.toLower = c := by
        rcases hFirst with hDigit | rfl
        · exact Text.toLower_of_isDigit hDigit
        · rfl
      have hNe {d : Char} (hDigit : d.isDigit = false) (hPoint : d ≠ '.') : c ≠ d := by
        rintro rfl
        rcases hFirst with hFirst | hFirst
        · rw [hDigit] at hFirst
          cases hFirst
        · exact hPoint hFirst
      have hWord {word : List Char} {d : Char} (hDigit : d.isDigit = false) (hPoint : d ≠ '.') :
          (mantissa ++ power).map Char.toLower ≠ d :: word := by
        intro hSame
        rw [hRow, List.cons_append, List.map_cons, hLower] at hSame
        exact hNe hDigit hPoint (List.cons.inj hSame).1
      have hHead {d : Char} (hDigit : d.isDigit = false) (hPoint : d ≠ '.') :
          (mantissa ++ power).head? ≠ some d := by
        rw [hRow]
        intro hSame
        exact hNe hDigit hPoint (Option.some.inj hSame)
      rw [read?_signed (signed_append hSign (hHead (by decide) (by decide))
        (hHead (by decide) (by decide)))]
      rw [if_neg, if_neg]
      · exact unsigned?_number hMantissa hPower
      · exact hWord (by decide) (by decide)
      · rintro (hInf | hInfinity)
        · exact hWord (by decide) (by decide) hInf
        · exact hWord (by decide) (by decide) hInfinity

theorem read?_iff {row : List Char} {literal : Literal} :
    Literal.read? row = some literal ↔ Spells row literal :=
  ⟨spells_of_read?, read?_of_spells⟩

/-!
## Case
-/

theorem caseless_sign {sign : List Char} {negative : Bool} (h : Sign sign negative) :
    Text.Caseless sign := by
  cases h <;> decide

theorem caseless_mantissa {mantissa digits : List Char} {places : Nat}
    (h : Mantissa mantissa digits places) : Text.Caseless mantissa := by
  cases h with
  | whole _ hDigits => exact Text.caseless_digits hDigits
  | @pointed whole places _ hDigits =>
      have hWhole := Text.caseless_digits fun c hMem => hDigits c (List.mem_append_left _ hMem)
      have hPlaces := Text.caseless_digits fun c hMem => hDigits c (List.mem_append_right _ hMem)
      have hPoint : Text.Caseless ['.'] := by decide
      exact Text.caseless_append hWhole (Text.caseless_append hPoint hPlaces)

theorem caseless_power {sign digits : List Char} {negative : Bool} (hSign : Sign sign negative)
    (hDigits : AllDigits digits) : Text.Caseless (sign ++ digits) :=
  Text.caseless_append (caseless_sign hSign) (Text.caseless_digits hDigits)

theorem exponent_map_iff {row : List Char} {exponent : Int} :
    Exponent (row.map Char.toLower) exponent ↔ Exponent row exponent := by
  constructor
  · intro h
    generalize hRow : row.map Char.toLower = lowered at h
    cases h with
    | absent =>
        rw [List.map_eq_nil_iff.mp hRow]
        exact .absent
    | power hMark hSign hSome hDigits =>
        rcases List.map_eq_cons_iff.mp hRow with ⟨mark, rest, rfl, rfl, hRest⟩
        rw [Text.toLower_toLower] at hMark
        rw [Text.eq_of_map_toLower (caseless_power hSign hDigits) hRest]
        exact .power hMark hSign hSome hDigits
  · intro h
    cases h with
    | absent => exact .absent
    | power hMark hSign hSome hDigits =>
        rw [List.map_cons, Text.map_toLower_caseless (caseless_power hSign hDigits)]
        exact .power (by rw [Text.toLower_toLower, hMark]) hSign hSome hDigits

theorem spells_map_iff (literal : Literal) (row : List Char) :
    Spells (row.map Char.toLower) literal ↔ Spells row literal := by
  constructor
  · intro h
    generalize hRow : row.map Char.toLower = lowered at h
    cases h with
    | infinite hSign hWord =>
        rcases List.map_eq_append_iff.mp hRow with ⟨sign, word, rfl, hLeft, rfl⟩
        rw [Text.map_toLower_map_toLower] at hWord
        rw [Text.eq_of_map_toLower (caseless_sign hSign) hLeft]
        exact .infinite hSign hWord
    | nan hSign hWord =>
        rcases List.map_eq_append_iff.mp hRow with ⟨sign, word, rfl, hLeft, rfl⟩
        rw [Text.map_toLower_map_toLower] at hWord
        rw [Text.eq_of_map_toLower (caseless_sign hSign) hLeft]
        exact .nan hSign hWord
    | number hSign hMantissa hPower =>
        rcases List.map_eq_append_iff.mp hRow with ⟨sign, rest, rfl, hLeft, hRest⟩
        rcases List.map_eq_append_iff.mp hRest with ⟨mantissa, power, rfl, hMiddle, rfl⟩
        rw [Text.eq_of_map_toLower (caseless_sign hSign) hLeft,
          Text.eq_of_map_toLower (caseless_mantissa hMantissa) hMiddle]
        exact .number hSign hMantissa (exponent_map_iff.mp hPower)
  · intro h
    cases h with
    | infinite hSign hWord =>
        rw [List.map_append, Text.map_toLower_caseless (caseless_sign hSign)]
        exact .infinite hSign (by rwa [Text.map_toLower_map_toLower])
    | nan hSign hWord =>
        rw [List.map_append, Text.map_toLower_caseless (caseless_sign hSign)]
        exact .nan hSign (by rwa [Text.map_toLower_map_toLower])
    | number hSign hMantissa hPower =>
        rw [List.map_append, List.map_append, Text.map_toLower_caseless (caseless_sign hSign),
          Text.map_toLower_caseless (caseless_mantissa hMantissa)]
        exact .number hSign hMantissa (exponent_map_iff.mpr hPower)

theorem plain_exponent {row : List Char} {exponent : Int} (h : Exponent row exponent) :
    Text.Plain row := by
  cases h with
  | absent => decide
  | @power mark sign digits _ hMark hSign _ hDigits =>
      have hFirst : Text.Plain [mark] := by
        apply Text.plain_of_map_toLower
        rw [List.map_cons, hMark]
        decide
      exact Text.plain_append hFirst (Text.caseless_plain (caseless_power hSign hDigits))

theorem plain_spells {row : List Char} {literal : Literal} (h : Spells row literal) :
    Text.Plain row := by
  have hWord {word row : List Char} (hPlain : Text.Plain word) (h : row.map Char.toLower = word) :
      Text.Plain row := Text.plain_of_map_toLower (by rwa [h])
  cases h with
  | infinite hSign hWords =>
      refine Text.plain_append (Text.caseless_plain (caseless_sign hSign)) ?_
      rcases hWords with hInf | hInfinity
      · exact hWord (by decide) hInf
      · exact hWord (by decide) hInfinity
  | nan hSign hNan =>
      exact Text.plain_append (Text.caseless_plain (caseless_sign hSign)) (hWord (by decide) hNan)
  | number hSign hMantissa hPower =>
      exact Text.plain_append (Text.caseless_plain (caseless_sign hSign))
        (Text.plain_append (Text.caseless_plain (caseless_mantissa hMantissa))
          (plain_exponent hPower))

/-- A word is a literal in lower case just where it is one as it stands. -/
theorem read?_lower_iff {row : List Char} {literal : Literal} :
    Literal.read? (Text.lower row) = some literal ↔ Spells row literal :=
  read?_iff.trans
    (Text.lower_iff (P := fun row => Spells row literal) (fun _ => plain_spells)
      (spells_map_iff literal) row)

/-!
## Natural numbers
-/

/-- One or more digits with an optional plus sign, for a number up to the bound. -/
def Counts (bound : Nat) (row : List Char) (n : Nat) : Prop :=
  exists digits, (row = digits ∨ row = '+' :: digits) ∧
    digits ≠ [] ∧ AllDigits digits ∧ natOfDigits digits = n ∧ n ≤ bound

theorem caseless_counts {bound n : Nat} {row : List Char} (h : Counts bound row n) :
    Text.Caseless row := by
  rcases h with ⟨digits, rfl | rfl, _, hDigits, _⟩
  · exact Text.caseless_digits hDigits
  · have hPlus : Text.Caseless ['+'] := by decide
    exact Text.caseless_append hPlus (Text.caseless_digits hDigits)

theorem natural_lower_iff {bound n : Nat} {row : List Char} :
    natural bound (Text.lower row) = .ok n ↔ Counts bound row n :=
  natural_ok_iff.trans
    (Text.lower_iff (P := fun row => Counts bound row n)
      (fun _ hCounts => Text.caseless_plain (caseless_counts hCounts))
      (Text.case_of_caseless fun _ => caseless_counts) row)

end Decimal
end TubMonitor
