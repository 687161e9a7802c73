import TubMonitor.Console.Command
import TubMonitor.Proofs.Decimal.Literals
import TubMonitor.Proofs.Text.Words

/-!
# The grammar of commands

What a line means is told by its words, each compared without regard to the case of ASCII letters.
A line that means no command is refused, and its words tell how.
-/

namespace TubMonitor
namespace Console

/-- The word is the keyword, in whatever case. -/
def Spelled (word : List Char) (keyword : String) : Prop :=
  word.map Char.toLower = keyword.toList

def PumpAction.word : PumpAction -> String
  | .on => "on"
  | .off => "off"
  | .status => "status"

inductive Means : List (List Char) -> Command -> Prop where
  | ozoneStart {ozone start word : List Char} {minutes : Nat} (hOzone : Spelled ozone "ozone")
      (hStart : Spelled start "start") (hMinutes : Decimal.Counts 4294967295 word minutes) :
      Means [ozone, start, word] (.ozoneStart minutes)
  | ozoneStop {ozone stop : List Char} (hOzone : Spelled ozone "ozone")
      (hStop : Spelled stop "stop") : Means [ozone, stop] .ozoneStop
  | clearTarget {target word : List Char} (hTarget : Spelled target "target")
      (hWord : Spelled word "clear" ∨ Spelled word "off") : Means [target, word] .clearTarget
  | target {target word : List Char} {literal : Decimal.Literal}
      (hTarget : Spelled target "target")
      (hWord : ¬ (Spelled word "clear" ∨ Spelled word "off"))
      (hDegrees : Decimal.Spells word literal) : Means [target, word] (.target literal.toFloat)
  | pump {pump word : List Char} {action : PumpAction} (hPump : Spelled pump "pump")
      (hAction : Spelled word action.word) : Means [pump, word] (.pump action)
  | status {word : List Char} (hStatus : Spelled word "status") : Means [word] .status
  | help {word : List Char} (hHelp : Spelled word "help" ∨ Spelled word "?") : Means [word] .help
  | quit {word : List Char} (hQuit : Spelled word "quit" ∨ Spelled word "exit") :
      Means [word] .quit

/-- A line that starts an ozone run, whatever its minutes. -/
def AsksMinutes (words : List (List Char)) : Prop :=
  exists ozone start word, words = [ozone, start, word] ∧ Spelled ozone "ozone" ∧
    Spelled start "start"

/-- A line that sets a target, whatever its temperature. -/
def AsksDegrees (words : List (List Char)) : Prop :=
  exists target word, words = [target, word] ∧ Spelled target "target" ∧
    ¬ (Spelled word "clear" ∨ Spelled word "off")

inductive Outcome (line : String) : List (List Char) -> Except Refusal Command -> Prop where
  | command {words : List (List Char)} {command : Command} (hMeans : Means words command) :
      Outcome line words (.ok command)
  | empty : Outcome line [] (.error .empty)
  | invalidMinutes {words : List (List Char)} {word : String} {fault : Decimal.IntegerFault}
      (hAsks : AsksMinutes words) (hNone : forall command, ¬ Means words command) :
      Outcome line words (.error (.invalidMinutes word fault))
  | invalidTemperature {words : List (List Char)} {word : String}
      (hAsks : AsksDegrees words) (hNone : forall command, ¬ Means words command) :
      Outcome line words (.error (.invalidTemperature word))
  | unknown {words : List (List Char)} {text : String} (hSome : words ≠ [])
      (hMinutes : ¬ AsksMinutes words) (hDegrees : ¬ AsksDegrees words)
      (hNone : forall command, ¬ Means words command)
      (hText : Text.Trimmed line.toList text.toList) :
      Outcome line words (.error (.unknown text))

/-!
## Words in lower case
-/

def lowered (word : List Char) : String :=
  String.ofList (Text.lower word)

theorem read_eq (line : String) :
    Command.read line = ofWords line ((Text.words line.toList).map lowered) := rfl

def keywords : List String :=
  [ "ozone", "start", "stop", "target", "clear", "off", "pump", "on", "status", "help", "?"
  , "quit", "exit" ]

theorem keywords_plain : forall keyword, keyword ∈ keywords ->
    Text.Plain keyword.toList ∧ keyword.toList.map Char.toLower = keyword.toList := by
  have hAll : keywords.all (fun keyword => decide (Text.Plain keyword.toList ∧
      keyword.toList.map Char.toLower = keyword.toList)) = true := by decide
  intro keyword hKeyword
  exact of_decide_eq_true (List.all_eq_true.mp hAll keyword hKeyword)

theorem lowered_iff {word : List Char} {keyword : String} (h : keyword ∈ keywords) :
    lowered word = keyword ↔ Spelled word keyword := by
  have hPlain := keywords_plain keyword h
  rw [Spelled, ← Text.lower_eq_iff hPlain.1 hPlain.2]
  constructor
  · rintro rfl
    exact String.toList_ofList.symm
  · intro hLower
    rw [lowered, hLower, String.ofList_toList]

theorem spelled {word : List Char} {keyword : String} (h : lowered word = keyword)
    (hKeyword : keyword ∈ keywords := by decide) : Spelled word keyword :=
  (lowered_iff hKeyword).mp h

theorem lowered_of_spelled {word : List Char} {keyword : String} (h : Spelled word keyword)
    (hKeyword : keyword ∈ keywords := by decide) : lowered word = keyword :=
  (lowered_iff hKeyword).mpr h

theorem natural_lowered {word : List Char} {minutes : Nat} :
    Decimal.natural largestMinutes (lowered word).toList = .ok minutes ↔
      Decimal.Counts 4294967295 word minutes := by
  rw [lowered, String.toList_ofList]
  exact Decimal.natural_lower_iff

theorem float?_lowered {word : List Char} {degrees : Float} :
    Decimal.float? (lowered word).toList = some degrees ↔
      exists literal, Decimal.Spells word literal ∧ literal.toFloat = degrees := by
  rw [lowered, String.toList_ofList, Decimal.float?, Option.map_eq_some_iff]
  simp only [Decimal.read?_lower_iff]

/-!
## Reading by words
-/

theorem read_of_means {line : String} {words : List (List Char)} {command : Command}
    (h : Means words command) : ofWords line (words.map lowered) = .ok command := by
  cases h with
  | @ozoneStart ozone start word minutes hOzone hStart hMinutes =>
      have hFirst := lowered_of_spelled hOzone
      have hSecond := lowered_of_spelled hStart
      simp [hFirst, hSecond, ofWords, readMinutes, natural_lowered.mpr hMinutes]
  | ozoneStop hOzone hStop =>
      have hFirst := lowered_of_spelled hOzone
      have hSecond := lowered_of_spelled hStop
      simp [hFirst, hSecond, ofWords]
  | clearTarget hTarget hWord =>
      have hFirst := lowered_of_spelled hTarget
      rcases hWord with hClear | hOff
      · have hSecond := lowered_of_spelled hClear
        simp [hFirst, hSecond, ofWords]
      · have hSecond := lowered_of_spelled hOff
        simp [hFirst, hSecond, ofWords]
  | target hTarget hWord hDegrees =>
      have hFirst := lowered_of_spelled hTarget
      have hFloat := float?_lowered.mpr ⟨_, hDegrees, rfl⟩
      rw [← lowered_iff (by decide), ← lowered_iff (by decide), not_or] at hWord
      simp [hFirst, hWord.1, hWord.2, ofWords, readTarget, hFloat]
  | @pump pump word action hPump hAction =>
      have hFirst := lowered_of_spelled hPump
      have hWord : action.word ∈ keywords := by cases action <;> decide
      have hSecond := lowered_of_spelled hAction hWord
      cases action <;> simp [hFirst, hSecond, PumpAction.word, ofWords]
  | status hStatus => simp [lowered_of_spelled hStatus, ofWords]
  | help hHelp =>
      rcases hHelp with hHelp | hMark
      · simp [lowered_of_spelled hHelp, ofWords]
      · simp [lowered_of_spelled hMark, ofWords]
  | quit hQuit =>
      rcases hQuit with hQuit | hExit
      · simp [lowered_of_spelled hQuit, ofWords]
      · simp [lowered_of_spelled hExit, ofWords]

theorem map_one {words : List (List Char)} {first : String} (h : words.map lowered = [first]) :
    exists word, words = [word] ∧ lowered word = first := by
  rcases List.map_eq_cons_iff.mp h with ⟨word, rest, rfl, hFirst, hRest⟩
  rw [List.map_eq_nil_iff.mp hRest]
  exact ⟨word, rfl, hFirst⟩

theorem map_two {words : List (List Char)} {first second : String}
    (h : words.map lowered = [first, second]) :
    exists word other, words = [word, other] ∧ lowered word = first ∧ lowered other = second := by
  rcases List.map_eq_cons_iff.mp h with ⟨word, rest, rfl, hFirst, hRest⟩
  rcases map_one hRest with ⟨other, rfl, hSecond⟩
  exact ⟨word, other, rfl, hFirst, hSecond⟩

theorem map_three {words : List (List Char)} {first second third : String}
    (h : words.map lowered = [first, second, third]) :
    exists word other last, words = [word, other, last] ∧ lowered word = first ∧
      lowered other = second ∧ lowered last = third := by
  rcases List.map_eq_cons_iff.mp h with ⟨word, rest, rfl, hFirst, hRest⟩
  rcases map_two hRest with ⟨other, last, rfl, hSecond, hThird⟩
  exact ⟨word, other, last, rfl, hFirst, hSecond, hThird⟩

theorem not_spelled_both {word : List Char} {keyword other : String} (hWord : Spelled word keyword)
    (hNe : keyword.toList ≠ other.toList) : ¬ Spelled word other :=
  fun hOther => hNe (hWord.symm.trans hOther)

theorem means_three {ozone start word : List Char} {command : Command}
    (h : Means [ozone, start, word] command) :
    exists minutes, Decimal.Counts 4294967295 word minutes := by
  cases h with
  | ozoneStart _ _ hMinutes => exact ⟨_, hMinutes⟩

theorem means_target {target word : List Char} {command : Command} (hTarget : Spelled target "target")
    (hWord : ¬ (Spelled word "clear" ∨ Spelled word "off")) (h : Means [target, word] command) :
    exists literal, Decimal.Spells word literal := by
  cases h with
  | ozoneStop hOzone => exact absurd hTarget (not_spelled_both hOzone (by decide))
  | clearTarget _ hClear => exact absurd hClear hWord
  | target _ _ hDegrees => exact ⟨_, hDegrees⟩
  | pump hPump => exact absurd hTarget (not_spelled_both hPump (by decide))

theorem outcome_minutes {line : String} {ozone start word : List Char}
    (hOzone : Spelled ozone "ozone") (hStart : Spelled start "start") :
    Outcome line [ozone, start, word] (readMinutes (lowered word)) := by
  unfold readMinutes
  cases hRead : Decimal.natural largestMinutes (lowered word).toList with
  | ok minutes => exact .command (.ozoneStart hOzone hStart (natural_lowered.mp hRead))
  | error fault =>
      refine .invalidMinutes ⟨ozone, start, word, rfl, hOzone, hStart⟩ fun command hMeans => ?_
      rcases means_three hMeans with ⟨minutes, hMinutes⟩
      rw [natural_lowered.mpr hMinutes] at hRead
      cases hRead

theorem outcome_target {line : String} {target word : List Char}
    (hTarget : Spelled target "target") (hWord : ¬ (Spelled word "clear" ∨ Spelled word "off")) :
    Outcome line [target, word] (readTarget (lowered word)) := by
  unfold readTarget
  cases hRead : Decimal.float? (lowered word).toList with
  | some degrees =>
      rcases float?_lowered.mp hRead with ⟨literal, hDegrees, rfl⟩
      exact .command (.target hTarget hWord hDegrees)
  | none =>
      refine .invalidTemperature ⟨target, word, rfl, hTarget, hWord⟩ fun command hMeans => ?_
      rcases means_target hTarget hWord hMeans with ⟨literal, hDegrees⟩
      rw [float?_lowered.mpr ⟨literal, hDegrees, rfl⟩] at hRead
      cases hRead

theorem outcome_read (line : String) :
    Outcome line (Text.words line.toList) (Command.read line) := by
  rw [read_eq]
  generalize Text.words line.toList = words
  generalize hMap : words.map lowered = lower
  generalize hRead : ofWords line lower = outcome
  have hCases := hRead
  unfold ofWords at hCases
  split at hCases <;> subst hCases
  · rcases map_three hMap with ⟨ozone, start, word, rfl, hOzone, hStart, rfl⟩
    exact outcome_minutes (spelled hOzone) (spelled hStart)
  · rcases map_two hMap with ⟨ozone, stop, rfl, hOzone, hStop⟩
    exact .command (.ozoneStop (spelled hOzone) (spelled hStop))
  · rcases map_two hMap with ⟨target, word, rfl, hTarget, hWord⟩
    exact .command (.clearTarget (spelled hTarget) (Or.inl (spelled hWord)))
  · rcases map_two hMap with ⟨target, word, rfl, hTarget, hWord⟩
    exact .command (.clearTarget (spelled hTarget) (Or.inr (spelled hWord)))
  · next hClear hOff =>
      rcases map_two hMap with ⟨target, word, rfl, hTarget, rfl⟩
      refine outcome_target (spelled hTarget) ?_
      rintro (hWord | hWord)
      · exact hClear (lowered_of_spelled hWord)
      · exact hOff (lowered_of_spelled hWord)
  · rcases map_two hMap with ⟨pump, word, rfl, hPump, hWord⟩
    exact .command (@Means.pump _ _ .on (spelled hPump) (spelled hWord))
  · rcases map_two hMap with ⟨pump, word, rfl, hPump, hWord⟩
    exact .command (@Means.pump _ _ .off (spelled hPump) (spelled hWord))
  · rcases map_two hMap with ⟨pump, word, rfl, hPump, hWord⟩
    exact .command (@Means.pump _ _ .status (spelled hPump) (spelled hWord))
  · rcases map_one hMap with ⟨word, rfl, hWord⟩
    exact .command (.status (spelled hWord))
  · rcases map_one hMap with ⟨word, rfl, hWord⟩
    exact .command (.help (Or.inl (spelled hWord)))
  · rcases map_one hMap with ⟨word, rfl, hWord⟩
    exact .command (.help (Or.inr (spelled hWord)))
  · rcases map_one hMap with ⟨word, rfl, hWord⟩
    exact .command (.quit (Or.inl (spelled hWord)))
  · rcases map_one hMap with ⟨word, rfl, hWord⟩
    exact .command (.quit (Or.inr (spelled hWord)))
  · rw [List.map_eq_nil_iff.mp hMap]
    exact .empty
  · next hNotStart _ _ _ hNotTarget _ _ _ _ _ _ _ _ hNotEmpty =>
      subst hMap
      refine .unknown ?_ ?_ ?_ ?_ (Text.trim_iff.mp String.toList_ofList.symm)
      · rintro rfl
        exact hNotEmpty rfl
      · rintro ⟨ozone, start, word, rfl, hOzone, hStart⟩
        exact hNotStart (lowered word)
          (by simp [lowered_of_spelled hOzone, lowered_of_spelled hStart])
      · rintro ⟨target, word, rfl, hTarget, _⟩
        exact hNotTarget (lowered word) (by simp [lowered_of_spelled hTarget])
      · intro command hMeans
        rw [read_of_means hMeans] at hRead
        cases hRead

/-!
## Lines that differ in case and in blanks
-/

/-- The same words, in whatever case. -/
def Alike (words others : List (List Char)) : Prop :=
  words.map (List.map Char.toLower) = others.map (List.map Char.toLower)

theorem alike_nil {others : List (List Char)} (h : Alike [] others) : others = [] :=
  List.map_eq_nil_iff.mp h.symm

theorem alike_cons {word : List Char} {rest others : List (List Char)}
    (h : Alike (word :: rest) others) : exists other after, others = other :: after ∧
      other.map Char.toLower = word.map Char.toLower ∧ Alike rest after := by
  rcases List.map_eq_cons_iff.mp h.symm with ⟨other, after, rfl, hWord, hRest⟩
  exact ⟨other, after, rfl, hWord, hRest.symm⟩

theorem alike_one {word : List Char} {others : List (List Char)} (h : Alike [word] others) :
    exists other, others = [other] ∧ other.map Char.toLower = word.map Char.toLower := by
  rcases alike_cons h with ⟨other, after, rfl, hWord, hRest⟩
  rw [alike_nil hRest]
  exact ⟨other, rfl, hWord⟩

theorem alike_two {word next : List Char} {others : List (List Char)}
    (h : Alike [word, next] others) : exists other after, others = [other, after] ∧
      other.map Char.toLower = word.map Char.toLower ∧
      after.map Char.toLower = next.map Char.toLower := by
  rcases alike_cons h with ⟨other, rest, rfl, hWord, hRest⟩
  rcases alike_one hRest with ⟨after, rfl, hNext⟩
  exact ⟨other, after, rfl, hWord, hNext⟩

theorem counts_alike {bound n : Nat} {word other : List Char}
    (h : other.map Char.toLower = word.map Char.toLower) (hWord : Decimal.Counts bound word n) :
    Decimal.Counts bound other n := by
  have hCase := Text.case_of_caseless (P := fun row => Decimal.Counts bound row n)
    fun _ => Decimal.caseless_counts
  rwa [← hCase, h, hCase]

theorem spells_alike {word other : List Char} {literal : Decimal.Literal}
    (h : other.map Char.toLower = word.map Char.toLower) (hWord : Decimal.Spells word literal) :
    Decimal.Spells other literal := by
  rwa [← Decimal.spells_map_iff, h, Decimal.spells_map_iff]

theorem spelled_alike {word other : List Char} {keyword : String}
    (h : other.map Char.toLower = word.map Char.toLower) :
    Spelled other keyword ↔ Spelled word keyword := by
  rw [Spelled, Spelled, h]

theorem means_alike {words others : List (List Char)} {command : Command}
    (hAlike : Alike words others) (h : Means words command) : Means others command := by
  cases h with
  | ozoneStart hOzone hStart hMinutes =>
      rcases alike_cons hAlike with ⟨ozone, rest, rfl, hFirst, hRest⟩
      rcases alike_two hRest with ⟨start, word, rfl, hSecond, hThird⟩
      exact .ozoneStart ((spelled_alike hFirst).mpr hOzone) ((spelled_alike hSecond).mpr hStart)
        (counts_alike hThird hMinutes)
  | ozoneStop hOzone hStop =>
      rcases alike_two hAlike with ⟨ozone, stop, rfl, hFirst, hSecond⟩
      exact .ozoneStop ((spelled_alike hFirst).mpr hOzone) ((spelled_alike hSecond).mpr hStop)
  | clearTarget hTarget hWord =>
      rcases alike_two hAlike with ⟨target, word, rfl, hFirst, hSecond⟩
      rw [← spelled_alike hSecond, ← spelled_alike hSecond] at hWord
      exact .clearTarget ((spelled_alike hFirst).mpr hTarget) hWord
  | target hTarget hWord hDegrees =>
      rcases alike_two hAlike with ⟨target, word, rfl, hFirst, hSecond⟩
      rw [← spelled_alike hSecond, ← spelled_alike hSecond] at hWord
      exact .target ((spelled_alike hFirst).mpr hTarget) hWord (spells_alike hSecond hDegrees)
  | pump hPump hAction =>
      rcases alike_two hAlike with ⟨pump, word, rfl, hFirst, hSecond⟩
      exact .pump ((spelled_alike hFirst).mpr hPump) ((spelled_alike hSecond).mpr hAction)
  | status hStatus =>
      rcases alike_one hAlike with ⟨word, rfl, hWord⟩
      exact .status ((spelled_alike hWord).mpr hStatus)
  | help hHelp =>
      rcases alike_one hAlike with ⟨word, rfl, hWord⟩
      rw [← spelled_alike hWord, ← spelled_alike hWord] at hHelp
      exact .help hHelp
  | quit hQuit =>
      rcases alike_one hAlike with ⟨word, rfl, hWord⟩
      rw [← spelled_alike hWord, ← spelled_alike hWord] at hQuit
      exact .quit hQuit

/-!
## Every line
-/

structure Grammar (line : String) (words : List (List Char)) : Prop where
  command : forall command, Command.read line = .ok command ↔ Means words command
  empty : Command.read line = .error .empty ↔ words = []
  invalidMinutes : (exists word fault, Command.read line = .error (.invalidMinutes word fault)) ↔
    AsksMinutes words ∧ forall command, ¬ Means words command
  invalidTemperature : (exists word, Command.read line = .error (.invalidTemperature word)) ↔
    AsksDegrees words ∧ forall command, ¬ Means words command
  unknown : forall text, Command.read line = .error (.unknown text) ↔
    words ≠ [] ∧ ¬ AsksMinutes words ∧ ¬ AsksDegrees words ∧
      (forall command, ¬ Means words command) ∧ Text.Trimmed line.toList text.toList

theorem not_asks_nil : ¬ AsksMinutes [] ∧ ¬ AsksDegrees [] := by
  constructor
  · rintro ⟨_, _, _, hNil, _⟩
    cases hNil
  · rintro ⟨_, _, hNil, _⟩
    cases hNil

theorem not_asks_both {words : List (List Char)} (hMinutes : AsksMinutes words) :
    ¬ AsksDegrees words := by
  rintro ⟨target, degrees, hTwo, _⟩
  rcases hMinutes with ⟨ozone, start, minutes, rfl, _⟩
  cases hTwo

section

variable {line : String} {words : List (List Char)} {outcome : Except Refusal Command}

theorem means_some {command : Command} (h : Means words command) : words ≠ [] := by
  rintro rfl
  cases h

theorem outcome_nil (h : Outcome line [] outcome) : outcome = .error .empty := by
  cases h with
  | command hMeans => exact absurd rfl (means_some hMeans)
  | empty => rfl
  | invalidMinutes hAsks => exact absurd hAsks not_asks_nil.1
  | invalidTemperature hAsks => exact absurd hAsks not_asks_nil.2
  | unknown hSome => exact absurd rfl hSome

theorem outcome_asksMinutes (h : Outcome line words outcome) (hMinutes : AsksMinutes words)
    (hNone : forall command, ¬ Means words command) :
    exists word fault, outcome = .error (.invalidMinutes word fault) := by
  cases h with
  | command hMeans => exact absurd hMeans (hNone _)
  | empty => exact absurd hMinutes not_asks_nil.1
  | invalidMinutes => exact ⟨_, _, rfl⟩
  | invalidTemperature hAsks => exact absurd hAsks (not_asks_both hMinutes)
  | unknown _ hNot => exact absurd hMinutes hNot

theorem outcome_asksDegrees (h : Outcome line words outcome) (hDegrees : AsksDegrees words)
    (hNone : forall command, ¬ Means words command) :
    exists word, outcome = .error (.invalidTemperature word) := by
  cases h with
  | command hMeans => exact absurd hMeans (hNone _)
  | empty => exact absurd hDegrees not_asks_nil.2
  | invalidMinutes hAsks => exact absurd hDegrees (not_asks_both hAsks)
  | invalidTemperature => exact ⟨_, rfl⟩
  | unknown _ _ hNot => exact absurd hDegrees hNot

theorem outcome_unknown {text : String} (h : Outcome line words outcome) (hSome : words ≠ [])
    (hMinutes : ¬ AsksMinutes words) (hDegrees : ¬ AsksDegrees words)
    (hNone : forall command, ¬ Means words command)
    (hText : Text.Trimmed line.toList text.toList) : outcome = .error (.unknown text) := by
  cases h with
  | command hMeans => exact absurd hMeans (hNone _)
  | empty => exact absurd rfl hSome
  | invalidMinutes hAsks => exact absurd hAsks hMinutes
  | invalidTemperature hAsks => exact absurd hAsks hDegrees
  | unknown _ _ _ _ hOther =>
      have hSame := (Text.trim_of_trimmed hOther).symm.trans (Text.trim_of_trimmed hText)
      rw [String.toList_inj.mp hSame]

end

theorem grammar_of_words {line : String} {words : List (List Char)}
    (hWords : Text.words line.toList = words) : Grammar line words := by
  have hOutcome := outcome_read line
  rw [hWords] at hOutcome
  constructor
  · intro command
    refine ⟨fun h => ?_, fun h => ?_⟩
    · rw [h] at hOutcome
      cases hOutcome with
      | command hMeans => exact hMeans
    · rw [read_eq, hWords]
      exact read_of_means h
  · constructor
    · intro h
      rw [h] at hOutcome
      cases hOutcome
      rfl
    · rintro rfl
      exact outcome_nil hOutcome
  · constructor
    · rintro ⟨word, fault, h⟩
      rw [h] at hOutcome
      cases hOutcome with
      | invalidMinutes hAsks hNone => exact ⟨hAsks, hNone⟩
    · rintro ⟨hAsks, hNone⟩
      exact outcome_asksMinutes hOutcome hAsks hNone
  · constructor
    · rintro ⟨word, h⟩
      rw [h] at hOutcome
      cases hOutcome with
      | invalidTemperature hAsks hNone => exact ⟨hAsks, hNone⟩
    · rintro ⟨hAsks, hNone⟩
      exact outcome_asksDegrees hOutcome hAsks hNone
  · intro text
    constructor
    · intro h
      rw [h] at hOutcome
      cases hOutcome with
      | unknown hSome hMinutes hDegrees hNone hText =>
          exact ⟨hSome, hMinutes, hDegrees, hNone, hText⟩
    · rintro ⟨hSome, hMinutes, hDegrees, hNone, hText⟩
      exact outcome_unknown hOutcome hSome hMinutes hDegrees hNone hText

theorem read_empty_iff {line : String} :
    Command.read line = .error .empty ↔ Text.isBlankLine line.toList = true := by
  rw [← Text.words_nil_iff]
  exact (grammar_of_words rfl).empty

theorem read_not_blank {line : String} {command : Command}
    (h : Command.read line = .ok command) : Text.isBlankLine line.toList = false := by
  rw [← Bool.not_eq_true, ← read_empty_iff, h]
  simp

/--
Each line has one list of words, and these tell what it means or why it is refused; another line
with the same words means the same, whatever their case and the blanks around them.
-/
theorem grammar_law :
    (forall line : String, exists words,
      (forall others, Text.Split line.toList others ↔ others = words) ∧ Grammar line words) ∧
    forall (line other : String) (words others : List (List Char)),
      Text.Split line.toList words -> Text.Split other.toList others -> Alike words others ->
      forall command, Command.read line = .ok command ↔ Command.read other = .ok command := by
  constructor
  · intro line
    refine ⟨Text.words line.toList, fun others => ?_, grammar_of_words rfl⟩
    rw [← Text.words_iff, eq_comm]
  · intro line other words others hLine hOther hAlike command
    have hRead := (grammar_of_words (Text.words_of_split hLine)).command command
    have hReadOther := (grammar_of_words (Text.words_of_split hOther)).command command
    rw [hRead, hReadOther]
    exact ⟨means_alike hAlike, means_alike hAlike.symm⟩

/-- A stop in other letters and with more blanks. -/
theorem grammar_law_stop : Command.read "  OZONE   Stop " = .ok .ozoneStop := by
  refine (grammar_law.2 "  OZONE   Stop " "ozone stop" ["OZONE".toList, "Stop".toList]
    ["ozone".toList, "stop".toList] ?_ ?_ ?_ .ozoneStop).mpr rfl
  · exact Text.words_iff.mp (by decide)
  · exact Text.words_iff.mp (by decide)
  · rfl

end Console
end TubMonitor
