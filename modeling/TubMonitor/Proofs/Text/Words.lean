import TubMonitor.Text.Blank

/-!
# Words as maximal runs

The words of a row are its maximal runs without a blank, and a row that has been trimmed is what
stands between the blanks at its ends.
-/

namespace TubMonitor
namespace Text

def AllBlank (row : List Char) : Prop :=
  forall c, c ∈ row -> isBlank c = true

/-- The words of a row, each as long as it can be, with blanks between them. -/
inductive Split : List Char -> List (List Char) -> Prop where
  | blank {row : List Char} (hBlank : AllBlank row) : Split row []
  | word {blanks word after : List Char} {rest : List (List Char)} (hBlanks : AllBlank blanks)
      (hSome : word ≠ []) (hWord : forall c, c ∈ word -> isBlank c = false)
      (hEnd : forall c, c ∈ after.head? -> isBlank c = true) (hRest : Split after rest) :
      Split (blanks ++ word ++ after) (word :: rest)

theorem allBlank_cons {c : Char} {row : List Char} :
    AllBlank (c :: row) ↔ isBlank c = true ∧ AllBlank row := by
  simp [AllBlank]

theorem isBlankLine_iff {row : List Char} : isBlankLine row = true ↔ AllBlank row := by
  simp [isBlankLine, AllBlank]

/-!
## Words are split
-/

theorem split_blank_cons {c : Char} {row : List Char} {found : List (List Char)}
    (hBlank : isBlank c = true) (h : Split row found) : Split (c :: row) found := by
  cases h with
  | blank hRow => exact .blank (allBlank_cons.mpr ⟨hBlank, hRow⟩)
  | word hBlanks hSome hWord hEnd hRest =>
      exact .word (allBlank_cons.mpr ⟨hBlank, hBlanks⟩) hSome hWord hEnd hRest

theorem split_word {word after : List Char} {rest : List (List Char)} (hSome : word ≠ [])
    (hWord : forall c, c ∈ word -> isBlank c = false)
    (hEnd : forall c, c ∈ after.head? -> isBlank c = true) (hRest : Split after rest) :
    Split (word ++ after) (word :: rest) :=
  .word (List.forall_mem_nil _) hSome hWord hEnd hRest

theorem split_emit {word after : List Char} {rest : List (List Char)}
    (hWord : forall c, c ∈ word -> isBlank c = false)
    (hEnd : forall c, c ∈ after.head? -> isBlank c = true) (hRest : Split after rest) :
    Split (word.reverse ++ after) (emit word rest) := by
  cases word with
  | nil => exact hRest
  | cons last word =>
      exact split_word (by simp) (fun c hMem => hWord c (List.mem_reverse.mp hMem)) hEnd hRest

/-- What has been gathered so far is the front of the next word. -/
theorem split_gather {word row : List Char} (hWord : forall c, c ∈ word -> isBlank c = false) :
    Split (word.reverse ++ row) (gather word row) := by
  induction row generalizing word with
  | nil => exact split_emit hWord (by simp) (.blank (by simp [AllBlank]))
  | cons c row ih =>
      rw [gather]
      split
      · next hBlank =>
          have hRest : Split row (gather [] row) := ih (List.forall_mem_nil _)
          exact split_emit hWord (by simpa using hBlank) (split_blank_cons hBlank hRest)
      · next hNot =>
          have hLonger : forall d, d ∈ c :: word -> isBlank d = false := by
            intro d hMem
            rcases List.mem_cons.mp hMem with rfl | hMem
            · simpa using hNot
            · exact hWord d hMem
          have hRest := ih hLonger
          rwa [List.reverse_cons, List.append_assoc] at hRest

theorem split_words (row : List Char) : Split row (words row) :=
  split_gather (List.forall_mem_nil _)

/-!
## A split is that into words
-/

theorem gather_blanks {blanks : List Char} (row : List Char) (h : AllBlank blanks) :
    gather [] (blanks ++ row) = gather [] row := by
  induction blanks with
  | nil => rfl
  | cons c blanks ih =>
      rw [allBlank_cons] at h
      rw [List.cons_append, gather, if_pos h.1]
      exact ih h.2

theorem gather_word {word front after : List Char}
    (hWord : forall c, c ∈ word -> isBlank c = false) :
    gather front (word ++ after) = gather (word.reverse ++ front) after := by
  induction word generalizing front with
  | nil => rfl
  | cons c word ih =>
      have hNot : ¬ isBlank c = true := by simp [hWord c List.mem_cons_self]
      rw [List.cons_append, gather, if_neg hNot,
        ih fun d hMem => hWord d (List.mem_cons_of_mem _ hMem)]
      simp

theorem gather_end {word after : List Char} (hEnd : forall c, c ∈ after.head? -> isBlank c = true) :
    gather word after = emit word (gather [] after) := by
  cases after with
  | nil => simp [gather, emit]
  | cons c after => simp [gather, hEnd c rfl, emit]

theorem words_of_split {row : List Char} {found : List (List Char)} (h : Split row found) :
    words row = found := by
  induction h with
  | @blank row hBlank =>
      have hBlanks := gather_blanks [] hBlank
      rw [List.append_nil] at hBlanks
      exact hBlanks
  | @word blanks word after rest hBlanks hSome hWord hEnd hRest ih =>
      have hEmit : emit word.reverse rest = word :: rest := by
        simp [emit, hSome]
      rw [words, List.append_assoc, gather_blanks _ hBlanks, gather_word hWord,
        List.append_nil, gather_end hEnd]
      rw [words] at ih
      rw [ih, hEmit]

theorem words_iff {row : List Char} {found : List (List Char)} :
    words row = found ↔ Split row found := by
  constructor
  · rintro rfl
    exact split_words row
  · exact words_of_split

theorem words_nil_iff {row : List Char} : words row = [] ↔ isBlankLine row = true := by
  rw [words_iff, isBlankLine_iff]
  constructor
  · intro h
    cases h with
    | blank hBlank => exact hBlank
  · exact .blank

/-!
## Trimming
-/

/-- What stands between the blanks at both ends. -/
def Trimmed (row core : List Char) : Prop :=
  exists front back, row = front ++ core ++ back ∧ AllBlank front ∧ AllBlank back ∧
    (forall c, c ∈ core.head? -> isBlank c = false) ∧
    forall c, c ∈ core.getLast? -> isBlank c = false

theorem allBlank_takeWhile (row : List Char) : AllBlank (row.takeWhile isBlank) := by
  intro c hMem
  exact List.all_eq_true.mp List.all_takeWhile c hMem

theorem head?_dropWhile {row : List Char} {c : Char} (h : c ∈ (row.dropWhile isBlank).head?) :
    isBlank c = false := by
  have hFirst := List.head?_dropWhile_not isBlank row
  rw [Option.mem_def.mp h] at hFirst
  exact hFirst

theorem trimmed_trim (row : List Char) : Trimmed row (trim row) := by
  have hStart : row = row.takeWhile isBlank ++ trimStart row :=
    List.takeWhile_append_dropWhile.symm
  have hEnd : trimStart row =
      trim row ++ ((trimStart row).reverse.takeWhile isBlank).reverse := by
    have hBoth := congrArg List.reverse
      (List.takeWhile_append_dropWhile (p := isBlank) (l := (trimStart row).reverse))
    rw [List.reverse_append, List.reverse_reverse] at hBoth
    exact hBoth.symm
  refine ⟨_, ((trimStart row).reverse.takeWhile isBlank).reverse, ?_, allBlank_takeWhile row,
    ?_, ?_, ?_⟩
  · rw [List.append_assoc, ← hEnd]
    exact hStart
  · intro c hMem
    exact allBlank_takeWhile _ c (List.mem_reverse.mp hMem)
  · intro c hHead
    -- the first character that is left is the first one after the blanks
    have hFirst : c ∈ (trimStart row).head? := by
      rw [hEnd, List.head?_append, Option.mem_def.mp hHead]
      rfl
    exact head?_dropWhile hFirst
  · intro c hLast
    rw [trim, trimEnd, List.getLast?_reverse] at hLast
    exact head?_dropWhile hLast

theorem dropWhile_blanks {blanks row : List Char} (hBlanks : AllBlank blanks)
    (hRow : forall c, c ∈ row.head? -> isBlank c = false) :
    (blanks ++ row).dropWhile isBlank = row := by
  rw [List.dropWhile_append_of_pos hBlanks]
  cases row with
  | nil => rfl
  | cons c row => simp [hRow c rfl]

theorem allBlank_reverse {row : List Char} (h : AllBlank row) : AllBlank row.reverse :=
  fun c hMem => h c (List.mem_reverse.mp hMem)

theorem trim_of_trimmed {row core : List Char} (h : Trimmed row core) : trim row = core := by
  rcases h with ⟨front, back, rfl, hFront, hBack, hFirst, hLast⟩
  have hEnd : trimEnd (core ++ back) = core := by
    rw [trimEnd, List.reverse_append, dropWhile_blanks (allBlank_reverse hBack), List.reverse_reverse]
    rwa [List.head?_reverse]
  cases core with
  | nil =>
      have hNothing : trimStart (front ++ [] ++ back) = [] := by
        have hBoth : AllBlank (front ++ back) :=
          fun c hMem => (List.mem_append.mp hMem).elim (hFront c) (hBack c)
        have hAll : (front ++ back ++ []).dropWhile isBlank = [] :=
          dropWhile_blanks hBoth (by simp)
        simpa [trimStart] using hAll
      rw [trim, hNothing]
      rfl
  | cons c core =>
      have hStart : trimStart (front ++ c :: core ++ back) = c :: core ++ back := by
        rw [trimStart, List.append_assoc]
        exact dropWhile_blanks hFront hFirst
      rw [trim, hStart, hEnd]

theorem trim_iff {row core : List Char} : trim row = core ↔ Trimmed row core := by
  constructor
  · rintro rfl
    exact trimmed_trim row
  · exact trim_of_trimmed

end Text
end TubMonitor
