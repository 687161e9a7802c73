import TubMonitor.Program
import TubMonitor.Proofs.Settings.Ranges

/-!
# What validation looks at

The numbers of a saved configuration have to be in the ranges of the command line, for validation
looks at them again.  It does not look at the words that name a backend.  So a word of the file that
the command line would refuse is settings like any other, and makes the monitor that its default
makes.
-/

namespace TubMonitor
namespace Settings

open Float.Model (UnpackedFloat)

/-!
## Checks
-/

theorem float_lt_iff {x y : Float} :
    x < y ↔ x.toModel.unpack.compare y.toModel.unpack = some .lt := by
  show decide (x.toModel < y.toModel) = true ↔ _
  rw [decide_eq_true_iff]
  show (x.toModel.unpack.compare y.toModel.unpack == some .lt) = true ↔ _
  rw [beq_iff_eq]

theorem float_le_iff {x y : Float} :
    x ≤ y ↔ (x.toModel.unpack.compare y.toModel.unpack).any (·.isLE) = true := by
  show decide (x.toModel ≤ y.toModel) = true ↔ _
  rw [decide_eq_true_iff]
  rfl

/-- A finite number is at least zero or else is below zero, for none of them is incomparable. -/
theorem zero_le_iff {x : Float} (hFinite : x.isFinite = true) : 0.0 ≤ x ↔ ¬ x < 0.0 := by
  have hUnpacked : x.toModel.unpack.isFinite = true := hFinite
  have hZero : (0.0 : Float).toModel.unpack = .zero .positive := by rfl
  rw [float_lt_iff, float_le_iff, hZero]
  generalize x.toModel.unpack = a at hUnpacked
  cases a with
  | infinity sign => cases hUnpacked
  | notANumber => cases hUnpacked
  | zero sign =>
      have hSame : UnpackedFloat.compare (.zero sign) (.zero .positive) = some .eq := rfl
      refine ⟨fun _ hLess => ?_, fun _ => rfl⟩
      cases hSame.symm.trans hLess
  | finite sign mantissa exponent hMantissa =>
      cases sign with
      | positive =>
          have hAbove : UnpackedFloat.compare (.finite .positive mantissa exponent hMantissa)
              (.zero .positive) = some .gt := rfl
          refine ⟨fun _ hLess => ?_, fun _ => rfl⟩
          cases hAbove.symm.trans hLess
      | negative =>
          refine ⟨fun hLeast => ?_, fun hNot => absurd rfl hNot⟩
          cases hLeast

theorem checkTolerance_iff {tolerance : Float} :
    checkTolerance tolerance = .ok () ↔ tolerance.isFinite = true ∧ 0.0 ≤ tolerance := by
  unfold checkTolerance
  split
  · next hBad =>
      constructor
      · intro h
        cases h
      · rintro ⟨hFinite, hZero⟩
        rw [zero_le_iff hFinite] at hZero
        simp [hFinite, hZero] at hBad
  · next hGood =>
      simp only [Bool.or_eq_true, Bool.not_eq_true', decide_eq_true_eq, not_or] at hGood
      have hFinite : tolerance.isFinite = true := by simpa using hGood.1
      exact ⟨fun _ => ⟨hFinite, (zero_le_iff hFinite).mpr hGood.2⟩, fun _ => rfl⟩

theorem checkRange_iff {what unit : String} {limit value : Nat} :
    checkRange what unit limit value = .ok () ↔ 1 ≤ value ∧ value ≤ limit := by
  unfold checkRange
  split
  · next hRange => exact ⟨fun _ => hRange, fun _ => rfl⟩
  · next hRange =>
      constructor
      · intro h
        cases h
      · exact fun h => absurd h hRange

theorem checkProbes_iff {s : Settings} :
    s.checkProbes = .ok () ↔
      (s.sensors = "sysfs" -> s.roomSensor.isSome = true ∧ s.waterSensor.isSome = true) := by
  unfold checkProbes
  split
  · next hLacking =>
      constructor
      · intro h
        cases h
      · intro h
        rcases h hLacking.1 with ⟨hRoom, hWater⟩
        simp [Option.isSome_iff_ne_none.mp hRoom, Option.isSome_iff_ne_none.mp hWater] at hLacking
  · next hNot =>
      refine ⟨fun _ hSensors => ?_, fun _ => rfl⟩
      simpa [hSensors, Option.isSome_iff_ne_none] using hNot

theorem checked_iff {first rest : Except Fault Unit} :
    (first >>= fun _ => rest) = .ok () ↔ first = .ok () ∧ rest = .ok () := by
  cases first with
  | error fault =>
      constructor
      · intro h
        cases h
      · rintro ⟨h, _⟩
        cases h
  | ok done => exact ⟨fun h => ⟨rfl, h⟩, fun h => h.2⟩

structure Sound (s : Settings) : Prop where
  probes : s.sensors = "sysfs" -> s.roomSensor.isSome = true ∧ s.waterSensor.isSome = true
  temperatureInterval : 1 ≤ s.temperatureInterval ∧ s.temperatureInterval ≤ 3600
  leakInterval : 1 ≤ s.leakInterval ∧ s.leakInterval ≤ 600
  maxOzoneMinutes : 1 ≤ s.maxOzoneMinutes ∧ s.maxOzoneMinutes ≤ 1440
  targetTolerance : s.targetTolerance.isFinite = true ∧ 0.0 ≤ s.targetTolerance

theorem validate_iff (s : Settings) : s.validate = .ok () ↔ s.Sound := by
  unfold validate
  rw [checked_iff, checked_iff, checked_iff, checked_iff, checkProbes_iff, checkRange_iff,
    checkRange_iff, checkRange_iff, checkTolerance_iff]
  constructor
  · rintro ⟨hProbes, hTemperature, hLeak, hMinutes, hTolerance⟩
    exact ⟨hProbes, hTemperature, hLeak, hMinutes, hTolerance⟩
  · intro h
    exact ⟨h.probes, h.temperatureInterval, h.leakInterval, h.maxOzoneMinutes, h.targetTolerance⟩

/-!
## Backends
-/

/-- A setting that names a backend, with the words for it. -/
structure Choice where
  argument : Argument
  given : Given -> Option String
  saved : Saved -> Option String
  value : Settings -> String
  words : List String
  default : String

def choices : List Choice :=
  [ ⟨.sensors, Given.sensors, Saved.sensors, Settings.sensors, ["simulated", "sysfs"], "simulated"⟩
  , ⟨.store, Given.store, Saved.store, Settings.store, ["memory", "sqlite"], "sqlite"⟩
  , ⟨.notifier, Given.notifier, Saved.notifier, Settings.notifier, ["log", "none"], "log"⟩ ]

/-- The words of a command line are words of the settings that they are for. -/
structure Given.Worded (g : Given) : Prop where
  sensors : forall word, word ∈ g.sensors -> word ∈ ["simulated", "sysfs"]
  store : forall word, word ∈ g.store -> word ∈ ["memory", "sqlite"]
  notifier : forall word, word ∈ g.notifier -> word ∈ ["log", "none"]

/-- What makes a setting the choice between some words. -/
structure Choice.Lawful (choice : Choice) : Prop where
  default : choice.default ∈ choice.words
  unsaved : choice.saved {} = none
  resolved : forall given c, choice.value (resolve given c) =
    choose (choice.given given) (choice.saved c) choice.default
  worded : forall given, Given.Worded given ->
    forall word, word ∈ choice.given given -> word ∈ choice.words
  taken : forall value given, (exists next, Argument.apply choice.argument value given = .ok next) ↔
    exists word, word ∈ choice.words ∧ value = OsText.ofString word

theorem text_ok {value : OsText} {text : String} (h : Argument.text value = .ok text) :
    value = OsText.ofString text := by
  unfold Argument.text at h
  split at h
  · next other hText =>
      cases h
      exact OsText.text?_eq_some_iff.mp hText
  · cases h

theorem word_ok {a : Argument} {allowed : List String} {value : OsText} {word : String}
    (h : a.word allowed value = .ok word) : value = OsText.ofString word ∧ word ∈ allowed := by
  rcases Argument.bind_ok h with ⟨text, hText, hWord⟩
  split at hWord
  · next hMem =>
      cases hWord
      exact ⟨text_ok hText, hMem⟩
  · cases hWord

theorem taken_iff {a : Argument} {allowed : List String} {value : OsText}
    {put : String -> Given} :
    (exists next, (a.word allowed value >>= fun taken => .ok (put taken)) = .ok next) ↔
      exists word, word ∈ allowed ∧ value = OsText.ofString word := by
  constructor
  · rintro ⟨next, hNext⟩
    rcases Argument.bind_ok hNext with ⟨taken, hRead, _⟩
    exact ⟨taken, (word_ok hRead).2, (word_ok hRead).1⟩
  · rintro ⟨word, hMem, rfl⟩
    refine ⟨put word, ?_⟩
    simp [Argument.word, Argument.text, OsText.text?_ofString, hMem, bind, Except.bind]

theorem choices_lawful : forall choice, choice ∈ choices -> choice.Lawful := by
  simp only [choices, List.forall_mem_cons, List.not_mem_nil, false_imp_iff, implies_true,
    and_true]
  exact
    ⟨⟨by decide, rfl, fun _ _ => rfl, fun _ h => h.sensors, fun _ _ => taken_iff⟩
    , ⟨by decide, rfl, fun _ _ => rfl, fun _ h => h.store, fun _ _ => taken_iff⟩
    , ⟨by decide, rfl, fun _ _ => rfl, fun _ h => h.notifier, fun _ _ => taken_iff⟩⟩

theorem word_taken {a : Argument} {allowed : List String} {value : OsText} {word : String}
    (h : a.word allowed value = .ok word) : forall other, other ∈ some word -> other ∈ allowed := by
  intro other hOther
  cases hOther
  exact (word_ok h).2

theorem apply_worded {a : Argument} {value : OsText} {g next : Given} (hWorded : g.Worded)
    (h : a.apply value g = .ok next) : next.Worded := by
  obtain ⟨hSensors, hStore, hNotifier⟩ := hWorded
  cases a with
  | sensors =>
      rcases Argument.bind_ok h with ⟨word, hRead, hNext⟩
      cases hNext
      exact ⟨word_taken hRead, hStore, hNotifier⟩
  | store =>
      rcases Argument.bind_ok h with ⟨word, hRead, hNext⟩
      cases hNext
      exact ⟨hSensors, word_taken hRead, hNotifier⟩
  | notifier =>
      rcases Argument.bind_ok h with ⟨word, hRead, hNext⟩
      cases hNext
      exact ⟨hSensors, hStore, word_taken hRead⟩
  | help => cases h
  | version => cases h
  | leakActiveLow | debug | clear =>
      cases h
      exact ⟨hSensors, hStore, hNotifier⟩
  | databasePath | temperatureInterval | leakInterval | targetTolerance | maxOzoneMinutes
  | notificationSubject | deviceRoot | roomSensor | waterSensor | leakPin | pumpPin | ozonePin
  | logLevel | logFile =>
      rcases Argument.bind_ok h with ⟨taken, _, hNext⟩
      cases hNext
      exact ⟨hSensors, hStore, hNotifier⟩

theorem accepted_worded {g : Given} (h : g.Accepted) : g.Worded := by
  rcases h with ⟨arguments, hRead⟩
  have hStart : Given.Worded {} := by constructor <;> simp
  exact CommandLine.read_invariant Given.Worded
    (fun _ _ _ _ hWorded hTaken => apply_worded hWorded hTaken) hStart hRead

/-- The word comes from the file, where the command line neither clears it nor has its own. -/
def Choice.Found (choice : Choice) (given : Given) (home : OsText) (t : FileTree)
    (word : String) : Prop :=
  given.clear = false ∧ choice.given given = none ∧ choice.saved (Saved.load home t) = some word

/-- A word of the command line or a default is one for the setting, so any other one is found. -/
theorem words_iff {choice : Choice} (hLawful : choice.Lawful) {given : Given}
    (hWorded : given.Worded) (home : OsText) (t : FileTree) :
    choice.value (invoke given home t).2 ∈ choice.words ↔
      forall word, choice.Found given home t word -> word ∈ choice.words := by
  unfold Choice.Found invoke
  cases hClear : given.clear with
  | true =>
      rw [if_pos rfl, hLawful.resolved, hLawful.unsaved]
      constructor
      · rintro _ word ⟨hNot, _⟩
        cases hNot
      · intro _
        cases hGiven : choice.given given with
        | some word => exact hLawful.worded given hWorded word hGiven
        | none => exact hLawful.default
  | false =>
      rw [if_neg Bool.false_ne_true, hLawful.resolved]
      cases hGiven : choice.given given with
      | some word =>
          constructor
          · rintro _ other ⟨_, hNot, _⟩
            cases hNot
          · intro _
            exact hLawful.worded given hWorded word hGiven
      | none =>
          cases hSaved : choice.saved (Saved.load home t) with
          | some word =>
              constructor
              · rintro hMem other ⟨_, _, hOther⟩
                cases hOther
                exact hMem
              · intro h
                exact h word ⟨rfl, rfl, rfl⟩
          | none =>
              constructor
              · rintro _ other ⟨_, _, hNot⟩
                cases hNot
              · intro _
                exact hLawful.default

/-!
## Words that name no backend
-/

/-- A word that is none of them stands for the default. -/
def known (words : List String) (default word : String) : String :=
  if word ∈ words then word else default

def settled (s : Settings) : Settings :=
  { s with
    sensors := known ["simulated", "sysfs"] "simulated" s.sensors
    store := known ["memory", "sqlite"] "sqlite" s.store
    notifier := known ["log", "none"] "log" s.notifier }

/-- Another word than the default is what stands for itself alone. -/
theorem known_eq_iff {words : List String} {default word other : String} (hMem : other ∈ words)
    (hOther : other ≠ default) : known words default word = other ↔ word = other := by
  unfold known
  split
  · rfl
  · next hNot =>
      constructor
      · intro h
        exact absurd h.symm hOther
      · rintro rfl
        exact absurd hMem hNot

theorem validate_settled (s : Settings) : s.settled.validate = s.validate := by
  have hSensors : s.settled.sensors = "sysfs" ↔ s.sensors = "sysfs" :=
    known_eq_iff (by decide) (by decide)
  have hProbes : s.settled.checkProbes = s.checkProbes := by
    unfold checkProbes
    simp only [hSensors]
    rfl
  unfold validate
  rw [hProbes]
  rfl

theorem bank_settled (s : Settings) (t : FileTree) :
    Program.bank s.settled t = Program.bank s t := by
  have hSensors : s.settled.sensors = "sysfs" ↔ s.sensors = "sysfs" :=
    known_eq_iff (by decide) (by decide)
  by_cases hSysfs : s.sensors = "sysfs"
  · unfold Program.bank
    rw [hSysfs, hSensors.mpr hSysfs]
    rfl
  · have hNot : s.settled.sensors ≠ "sysfs" := fun h => hSysfs (hSensors.mp h)
    simp [Program.bank, hSysfs, hNot]

theorem openStore_settled (s : Settings) (home : OsText) (t : FileTree) :
    Program.openStore s.settled home t = Program.openStore s home t := by
  have hStore : s.settled.store = "memory" ↔ s.store = "memory" :=
    known_eq_iff (by decide) (by decide)
  by_cases hMemory : s.store = "memory"
  · unfold Program.openStore
    rw [hMemory, hStore.mpr hMemory]
    rfl
  · have hNot : s.settled.store ≠ "memory" := fun h => hMemory (hStore.mp h)
    -- both equations ask that the word is another one
    simp only [Program.openStore]
    rfl

theorem sink_settled (s : Settings) : Program.sink s.settled = Program.sink s := by
  have hNotifier : s.settled.notifier = "none" ↔ s.notifier = "none" :=
    known_eq_iff (by decide) (by decide)
  by_cases hNone : s.notifier = "none"
  · unfold Program.sink
    rw [hNone, hNotifier.mpr hNone]
  · have hNot : s.settled.notifier ≠ "none" := fun h => hNone (hNotifier.mp h)
    simp only [Program.sink]

/-- The monitor and the tree, without the settings themselves. -/
def made (outcome : Except (Program.Halt × FileTree) Program.Ready) :
    Except (Program.Halt × FileTree) (Monitor × FileTree) :=
  outcome.map fun ready => (ready.monitor, ready.tree)

theorem assemble_settled (s : Settings) (home : OsText) (now : Nat) (t : FileTree) :
    made (Program.assemble s.settled home now t) = made (Program.assemble s home now t) := by
  unfold Program.assemble
  cases Program.houseIn t home with
  | error halt => rfl
  | ok housed =>
      show made (Program.openLog housed s.logFile >>= _) =
        made (Program.openLog housed s.logFile >>= _)
      cases Program.openLog housed s.logFile with
      | error halt => rfl
      | ok logged =>
          simp only [bind, Except.bind, validate_settled, openStore_settled, sink_settled,
            bank_settled]
          cases s.validate with
          | error fault => rfl
          | ok done =>
              cases Program.openStore s home logged with
              | error halt => rfl
              | ok opened => rfl

/-!
## The law
-/

/--
Settings of a command line that is accepted are valid if and only if their numbers are in the
ranges, the tolerance is a finite number that is not negative, and files as sensors come with both
probes.  Nothing is asked of a word for a backend: it is one of the words that the command line
takes, which are the words of the choice, if and only if the file has no other one in its place.
Where it has, the monitor that is made is the one that the default makes.
-/
theorem validation_law {given : Given} (home : OsText) (t : FileTree) (hGiven : given.Accepted) :
    let s := (invoke given home t).2
    (s.validate = .ok () ↔ s.Sound) ∧
      (forall choice, choice ∈ choices ->
        (forall value before,
          (exists next, Argument.apply choice.argument value before = .ok next) ↔
            exists word, word ∈ choice.words ∧ value = OsText.ofString word) ∧
        (choice.value s ∈ choice.words ↔
          forall word, choice.Found given home t word -> word ∈ choice.words)) ∧
      forall now tree,
        made (Program.assemble s home now tree) =
          made (Program.assemble s.settled home now tree) := by
  intro s
  refine ⟨validate_iff s, ?_, ?_⟩
  · intro choice hMem
    have hLawful := choices_lawful choice hMem
    exact ⟨hLawful.taken, words_iff hLawful (accepted_worded hGiven) home t⟩
  · intro now tree
    exact (assemble_settled s home now tree).symm

/-!
## A file with words of its own
-/

def foreignDocument : String :=
  "\x7b\"sensors\": \"gpio\", \"store\": \"mysql\", \"leak_interval\": 9\x7d"

def foreignTree : FileTree :=
  ⟨ [ (["config.json", ".coldplunge", "home"], .file foreignDocument.toUTF8)
    , ([".coldplunge", "home"], .directory)
    , (["home"], .directory) ] ⟩

theorem foreign_load : Saved.load "/home" foreignTree =
    { sensors := some "gpio", store := some "mysql", leakInterval := some 9 } := by
  decide +kernel

theorem foreign_settings {given : Given} (h : given.clear = false) :
    (invoke given "/home" foreignTree).2 =
      resolve given { sensors := some "gpio", store := some "mysql", leakInterval := some 9 } := by
  rw [invoke, if_neg (by simp [h])]
  exact congrArg (resolve given) foreign_load

theorem validation_law_foreign :
    Given.Accepted { store := some "memory" } ∧
      let s := (invoke { store := some "memory" } "/home" foreignTree).2
      s.validate = .ok () ∧ s.Sound ∧ s.leakInterval = 9 ∧ s.store ∈ ["memory", "sqlite"] ∧
        s.sensors ∉ ["simulated", "sysfs"] ∧
        made (Program.assemble s "/home" 0 .empty) =
          made (Program.assemble s.settled "/home" 0 .empty) := by
  have hGiven : Given.Accepted { store := some "memory" } :=
    ⟨["--store", "memory"], by decide +kernel⟩
  rcases validation_law "/home" foreignTree hGiven with ⟨hValid, hWords, hMade⟩
  have hSensors := (hWords _ (List.mem_cons_self ..)).2
  have hStore := (hWords _ (List.mem_cons_of_mem _ (List.mem_cons_self ..))).2
  have hSound := hValid.mp (by rw [foreign_settings rfl]; decide +kernel)
  refine ⟨hGiven, hValid.mpr hSound, hSound, by rw [foreign_settings rfl]; rfl, hStore.mpr ?_, ?_,
    hMade ..⟩
  · rintro word ⟨_, hNot, _⟩
    cases hNot
  · intro hMem
    have hFound := hSensors.mp hMem "gpio" ⟨rfl, rfl, by rw [foreign_load]⟩
    exact absurd hFound (by decide)

/-- Both words are accepted though the command line takes neither. -/
theorem foreign_words_validated :
    Given.Accepted {} ∧
      let s := (invoke {} "/home" foreignTree).2
      s.validate = .ok () ∧ s.sensors ∉ ["simulated", "sysfs"] ∧ s.store ∉ ["memory", "sqlite"] ∧
        Program.bank s foreignTree = .tub .standard := by
  refine ⟨⟨[], by decide +kernel⟩, ?_⟩
  rw [foreign_settings rfl]
  exact ⟨by decide +kernel, by decide, by decide, rfl⟩

end Settings
end TubMonitor
