import Mathlib.Data.List.Induction
import TubMonitor.Proofs.Settings.File
import TubMonitor.Proofs.Settings.Ranges

/-!
# Where the settings of an invocation come from

A field that is kept has the value of its own command line, else the one that was given last since
the configuration was cleared, else the one that was found in the file at first, else its default.
Defaults are saved along with the rest, but a default that is found again makes no difference.  A
command line with a path that is no text is for itself alone: nothing of it can be saved.
-/

namespace TubMonitor
namespace Settings

open FileTree (parentNames)

/-!
## Fields that are kept
-/

/-- A field on the command line, in the file and in the settings, with its default. -/
structure Field (α : Type) where
  given : Given -> Option α
  saved : Saved -> Option α
  value : Settings -> Option α
  default : Option α

def keptTexts : List (Field String) :=
  [ ⟨Given.sensors, Saved.sensors, fun s => some s.sensors, some "simulated"⟩
  , ⟨Given.store, Saved.store, fun s => some s.store, some "sqlite"⟩
  , ⟨Given.notifier, Saved.notifier, fun s => some s.notifier, some "log"⟩
  , ⟨Given.roomSensor, Saved.roomSensor, Settings.roomSensor, none⟩
  , ⟨Given.waterSensor, Saved.waterSensor, Settings.waterSensor, none⟩ ]

def keptCounts : List (Field Nat) :=
  [ ⟨Given.temperatureInterval, Saved.temperatureInterval, fun s => some s.temperatureInterval,
      some 30⟩
  , ⟨Given.leakInterval, Saved.leakInterval, fun s => some s.leakInterval, some 5⟩
  , ⟨Given.leakPin, Saved.leakPin, fun s => some s.leakPin, some 17⟩
  , ⟨Given.pumpPin, Saved.pumpPin, fun s => some s.pumpPin, some 27⟩
  , ⟨Given.ozonePin, Saved.ozonePin, fun s => some s.ozonePin, some 22⟩ ]

def keptPath : Field OsText :=
  ⟨Given.databasePath, Saved.databasePath, Settings.databasePath, none⟩

structure Field.Kept {α : Type} (f : Field α) : Prop where
  resolved : forall given c, f.value (resolve given c) = (f.given given <|> f.saved c <|> f.default)
  saved : forall s, f.saved (toSaved s) = f.value s
  fresh : f.saved {} = none

theorem choose_eq {α : Type} (given saved : Option α) (default : α) :
    some (choose given saved default) = (given <|> saved <|> some default) := by
  cases given <;> cases saved <;> rfl

theorem orElse_none {α : Type} (given saved : Option α) :
    (given <|> saved) = (given <|> saved <|> none) := by
  cases given <;> cases saved <;> rfl

theorem kept_path : keptPath.Kept :=
  ⟨fun _ _ => orElse_none .., fun _ => rfl, rfl⟩

theorem kept_texts : forall f, f ∈ keptTexts -> f.Kept := by
  simp only [keptTexts, List.forall_mem_cons, List.not_mem_nil, false_imp_iff, implies_true,
    and_true]
  exact
    ⟨⟨fun _ _ => choose_eq .., fun _ => rfl, rfl⟩
    , ⟨fun _ _ => choose_eq .., fun _ => rfl, rfl⟩
    , ⟨fun _ _ => choose_eq .., fun _ => rfl, rfl⟩
    , ⟨fun _ _ => orElse_none .., fun _ => rfl, rfl⟩
    , ⟨fun _ _ => orElse_none .., fun _ => rfl, rfl⟩⟩

theorem kept_counts : forall f, f ∈ keptCounts -> f.Kept := by
  simp only [keptCounts, List.forall_mem_cons, List.not_mem_nil, false_imp_iff, implies_true,
    and_true]
  exact
    ⟨⟨fun _ _ => choose_eq .., fun _ => rfl, rfl⟩
    , ⟨fun _ _ => choose_eq .., fun _ => rfl, rfl⟩
    , ⟨fun _ _ => choose_eq .., fun _ => rfl, rfl⟩
    , ⟨fun _ _ => choose_eq .., fun _ => rfl, rfl⟩
    , ⟨fun _ _ => choose_eq .., fun _ => rfl, rfl⟩⟩

/-!
## One invocation
-/

/-- What is read from the file, if it is there and can be read as a configuration. -/
def written (home : OsText) (t : FileTree) : Option Saved :=
  (t.readText (configurationPath home)).toOption.bind Saved.ofText?

theorem load_eq (home : OsText) (t : FileTree) :
    Saved.load home t = (written home t).getD {} := by
  unfold Saved.load written
  cases t.readText (configurationPath home) <;> rfl

theorem written_of_readText {home : OsText} {t : FileTree} {c : Saved} {text : String}
    (h : t.readText (configurationPath home) = .ok text) (hFits : c.Fits)
    (hText : c.text? = some text) : written home t = some c := by
  rw [written, h]
  show (some text).bind Saved.ofText? = some c
  rw [Option.bind_some, Saved.ofText?_text hFits hText]

/-- The same bytes are in the file, or none. -/
def Unchanged (home : OsText) (t after : FileTree) : Prop :=
  (after.readBytes (configurationPath home)).toOption =
    (t.readBytes (configurationPath home)).toOption

theorem written_unchanged {home : OsText} {t after : FileTree} (h : Unchanged home t after) :
    written home after = written home t := by
  have hBytes (tree : FileTree) : (tree.readText (configurationPath home)).toOption =
      (tree.readBytes (configurationPath home)).toOption.bind String.fromUTF8? := by
    unfold FileTree.readText
    cases tree.readBytes (configurationPath home) with
    | error fault => rfl
    | ok bytes => cases hText : String.fromUTF8? bytes <;> simp [hText, bind, Except.bind,
        Except.toOption]
  rw [written, written, hBytes, hBytes, h]

/-- To make the directory brings no configuration to light. -/
def Overt (home : OsText) (t : FileTree) : Prop :=
  forall housed, t.ensureDirectories (parentNames (configurationPath home)) = .ok housed ->
    Unchanged home t housed

theorem overt_of_leads {home : OsText} {t : FileTree}
    (h : t.leadsToDirectory (parentNames (configurationPath home)) = true) : Overt home t := by
  intro housed hHoused
  rw [housed_there h] at hHoused
  cases hHoused
  exact rfl

/-- The path that is given, if any, is a text.  Otherwise nothing can be saved. -/
def Given.isTextual (g : Given) : Bool :=
  g.databasePath.all fun path => path.text?.isSome

theorem textual_resolve {given : Given} {c : Saved} (hTextual : c.Textual) :
    (resolve given c).toSaved.Textual ↔ given.isTextual = true := by
  unfold Given.isTextual
  cases hPath : given.databasePath with
  | none =>
      have hSame : (resolve given c).toSaved.databasePath = c.databasePath := by
        simp [resolve, toSaved, hPath]
      simp only [Option.all_none, iff_true]
      rw [Saved.Textual, hSame]
      exact hTextual
  | some path =>
      have hSame : (resolve given c).toSaved.databasePath = some path := by
        simp [resolve, toSaved, hPath]
      rw [Saved.Textual, hSame, Option.all_some, Option.isSome_iff_exists]
      constructor
      · rintro ⟨text, hText⟩
        cases text with
        | none => cases hText
        | some text => exact ⟨text, OsText.text?_eq_some_iff.mpr (Option.some.inj hText)⟩
      · rintro ⟨text, hText⟩
        exact ⟨some text, congrArg some (OsText.text?_eq_some_iff.mp hText)⟩

theorem told_resolve {given : Given} (hTextual : given.isTextual = true) (home : OsText)
    (t : FileTree) : exists text, (resolve given (Saved.load home t)).toSaved.text? = some text :=
  Saved.textual_iff.mp ((textual_resolve (Saved.load_fits home t).2).mpr hTextual)

theorem untold_resolve {given : Given} (hTextual : given.isTextual = false) (home : OsText)
    (t : FileTree) : (resolve given (Saved.load home t)).toSaved.text? = none := by
  rw [Option.eq_none_iff_forall_ne_some]
  intro text hText
  have hSaved := (textual_resolve (Saved.load_fits home t).2).mp
    (Saved.textual_iff.mpr ⟨text, hText⟩)
  rw [hTextual] at hSaved
  cases hSaved

structure Leaves (given : Given) (home : OsText) (t : FileTree) : Prop where
  writable : Writable home (invoke given home t).1
  overt : Overt home t -> Overt home (invoke given home t).1
  cleared : given.clear = true -> (invoke given home t).1.contains (configurationPath home) = false
  kept : given.clear = false -> given.isTextual = true -> exists text,
    (invoke given home t).2.toSaved.text? = some text ∧
      (invoke given home t).1.readText (configurationPath home) = .ok text ∧
      written home (invoke given home t).1 = some (invoke given home t).2.toSaved
  unsaved : given.clear = false -> given.isTextual = false -> Overt home t ->
    Unchanged home t (invoke given home t).1
  again : given.clear = false -> (given.isTextual = true ∨ Overt home t) ->
    invoke given home (invoke given home t).1 = invoke given home t

theorem choose_again {α : Type} (given saved : Option α) (default : α) :
    choose given (some (choose given saved default)) default = choose given saved default := by
  cases given <;> rfl

theorem orElse_again {α : Type} (given saved : Option α) :
    (given <|> given <|> saved) = (given <|> saved) := by
  cases given <;> rfl

/-- Settings that have been saved lead to the same settings. -/
theorem resolve_again (given : Given) (c : Saved) :
    resolve given (resolve given c).toSaved = resolve given c := by
  simp only [resolve, toSaved, choose_again, orElse_again]

theorem invoke_clear {given : Given} (home : OsText) (t : FileTree) (h : given.clear = true) :
    invoke given home t = ((Saved.clear home t).1, resolve given {}) := by
  rw [invoke, if_pos h]

theorem invoke_keep {given : Given} (home : OsText) (t : FileTree) (h : given.clear = false) :
    invoke given home t =
      (((resolve given (Saved.load home t)).toSaved.save home t).1,
        resolve given (Saved.load home t)) := by
  rw [invoke, if_neg (by simp [h])]

section

variable {given : Given} {home : OsText} {t : FileTree}

theorem clear_leaves (hWritable : Writable home t) (hClear : given.clear = true) :
    Leaves given home t := by
  rcases Saved.clear_writable hWritable with ⟨hStill, hAbsent, hSame⟩
  have hInvoke := invoke_clear home t hClear
  have hNot : ¬ given.clear = false := by simp [hClear]
  refine ⟨?_, ?_, ?_, fun h => absurd h hNot, fun h => absurd h hNot, fun h => absurd h hNot⟩
  · rw [hInvoke]
    exact hStill
  · intro hOvert
    rw [hInvoke]
    rcases hSame with hSame | hLeads
    · rw [hSame]
      exact hOvert
    · exact overt_of_leads hLeads
  · intro _
    rw [hInvoke]
    exact hAbsent

theorem save_leaves (hWritable : Writable home t) (hGiven : given.kept.Fits)
    (hClear : given.clear = false) (hTextual : given.isTextual = true) :
    Leaves given home t := by
  rcases hWritable with ⟨housed, kept, draft, hHoused, hSeat⟩
  have hInvoke := invoke_keep home t hClear
  rcases told_resolve hTextual home t with ⟨text, hText⟩
  generalize hResolved : resolve given (Saved.load home t) = settings at hInvoke hText
  have hFits : settings.toSaved.Fits := by
    rw [← hResolved]
    exact fits_resolve hGiven (Saved.load_fits home t).1
  rw [Saved.save_writable _ hHoused, Saved.save_eq hText hSeat] at hInvoke
  have hStored := Saved.seat_stored text hSeat
  have hRead := Saved.readText_stored text hSeat
  have hWritten := written_of_readText hRead hFits hText
  have hNot : ¬ given.isTextual = false := by simp [hTextual]
  refine ⟨?_, ?_, ?_, ?_, fun _ h => absurd h hNot, ?_⟩
  · rw [hInvoke]
    exact writable_of_seat hStored
  · intro _
    rw [hInvoke]
    exact overt_of_leads hStored.holder
  · intro hCleared
    rw [hClear] at hCleared
    cases hCleared
  · intro _ _
    rw [hInvoke]
    exact ⟨text, hText, hRead, hWritten⟩
  · intro _ _
    have hAgain : resolve given settings.toSaved = settings := by
      rw [← hResolved]
      exact resolve_again given (Saved.load home t)
    rw [hInvoke, invoke_keep home _ hClear, load_eq, hWritten, Option.getD_some, hAgain,
      Saved.save_again hText hSeat]

/-- Without a document the directory is made, and that is all. -/
theorem untold_leaves (hWritable : Writable home t) (hClear : given.clear = false)
    (hTextual : given.isTextual = false) : Leaves given home t := by
  rcases hWritable with ⟨housed, kept, draft, hHoused, hSeat⟩
  have hInvoke := invoke_keep home t hClear
  rw [Saved.save_untold (untold_resolve hTextual home t) hHoused] at hInvoke
  have hNot : ¬ given.isTextual = true := by simp [hTextual]
  refine ⟨?_, ?_, ?_, fun _ h => absurd h hNot, ?_, ?_⟩
  · rw [hInvoke]
    exact writable_of_seat hSeat
  · intro _
    rw [hInvoke]
    exact overt_of_leads hSeat.holder
  · intro hCleared
    rw [hClear] at hCleared
    cases hCleared
  · intro _ _ hOvert
    rw [hInvoke]
    exact hOvert housed hHoused
  · intro _ hOr
    have hOvert : Overt home t := hOr.resolve_left hNot
    have hSame : Saved.load home housed = Saved.load home t := by
      rw [load_eq, load_eq, written_unchanged (hOvert housed hHoused)]
    rw [hInvoke, invoke_keep home _ hClear,
      Saved.save_untold (untold_resolve hTextual home housed) (housed_there hSeat.holder), hSame]

theorem invoke_leaves (hWritable : Writable home t) (hGiven : given.kept.Fits) :
    Leaves given home t := by
  cases hClear : given.clear with
  | true => exact clear_leaves hWritable hClear
  | false =>
      cases hTextual : given.isTextual with
      | true => exact save_leaves hWritable hGiven hClear hTextual
      | false => exact untold_leaves hWritable hClear hTextual

end

/-!
## One invocation after the other
-/

/-- The tree after some invocations, the first of them first. -/
def treeAfter (home : OsText) (t : FileTree) (earlier : List Given) : FileTree :=
  earlier.foldl (fun tree given => (invoke given home tree).1) t

theorem treeAfter_concat (home : OsText) (t : FileTree) (earlier : List Given) (given : Given) :
    treeAfter home t (earlier ++ [given]) = (invoke given home (treeAfter home t earlier)).1 := by
  simp [treeAfter]

theorem treeAfter_writable {home : OsText} {t : FileTree} {earlier : List Given}
    (hWritable : Writable home t) (hEarlier : forall g, g ∈ earlier -> g.kept.Fits) :
    Writable home (treeAfter home t earlier) ∧
      (Overt home t -> Overt home (treeAfter home t earlier)) := by
  induction earlier generalizing t with
  | nil => exact ⟨hWritable, id⟩
  | cons given rest ih =>
      have hLeaves := invoke_leaves hWritable (hEarlier given (List.mem_cons_self ..))
      rcases ih hLeaves.writable fun g hMem => hEarlier g (List.mem_cons_of_mem _ hMem) with
        ⟨hLast, hOvert⟩
      exact ⟨hLast, fun h => hOvert (hLeaves.overt h)⟩

/-- The invocations since the configuration was cleared, the last of them first. -/
def sinceClear (earlier : List Given) : List Given :=
  earlier.reverse.takeWhile fun given => !given.clear

/-- What is to be found in the file of a field that has not been given. -/
def Field.remembered {α : Type} (f : Field α) (initial : Option Saved) (earlier : List Given) :
    Option α :=
  ((sinceClear earlier).filter Given.isTextual).findSome? f.given <|>
    if earlier.any Given.clear then none else initial.bind f.saved

/-- The value that a field has to have in an invocation. -/
def Field.expected {α : Type} (f : Field α) (initial : Option Saved) (earlier : List Given)
    (given : Given) : Option α :=
  f.given given <|>
    (if given.clear then none else f.remembered initial earlier) <|> f.default

/-- What the file says comes to what is to be remembered, but for defaults. -/
theorem remembered_load {α : Type} {f : Field α} (hKept : f.Kept) {home : OsText} {t : FileTree}
    {earlier : List Given} (hWritable : Writable home t)
    (hOvert : Overt home t ∨ forall g, g ∈ earlier -> g.isTextual = true)
    (hEarlier : forall g, g ∈ earlier -> g.kept.Fits) :
    (f.saved (Saved.load home (treeAfter home t earlier)) <|> f.default) =
      (f.remembered (written home t) earlier <|> f.default) := by
  induction earlier using List.reverseRecOn with
  | nil =>
      rw [treeAfter, List.foldl_nil, load_eq]
      cases written home t with
      | none => exact congrArg (· <|> f.default) hKept.fresh
      | some c => rfl
  | append_singleton earlier last ih =>
      have hBefore : forall g, g ∈ earlier -> g.kept.Fits :=
        fun g hMem => hEarlier g (List.mem_append_left _ hMem)
      have hLast := hEarlier last (by simp)
      have ih := ih (hOvert.imp_right fun h g hMem => h g (List.mem_append_left _ hMem)) hBefore
      rcases treeAfter_writable hWritable hBefore with ⟨hThen, hStill⟩
      have hLeaves := invoke_leaves hThen hLast
      rw [treeAfter_concat]
      cases hClear : last.clear with
      | true =>
          rw [Saved.load_absent (hLeaves.cleared hClear), hKept.fresh]
          simp [Field.remembered, sinceClear, hClear]
      | false =>
          have hSince : sinceClear (earlier ++ [last]) = last :: sinceClear earlier := by
            simp [sinceClear, hClear]
          have hAny : (earlier ++ [last]).any Given.clear = earlier.any Given.clear := by
            simp [hClear]
          cases hTextual : last.isTextual with
          | true =>
              rcases hLeaves.kept hClear hTextual with ⟨_, _, _, hWritten⟩
              rw [load_eq, hWritten, Option.getD_some, hKept.saved, invoke_keep _ _ hClear,
                hKept.resolved, ih]
              unfold Field.remembered
              rw [hSince, hAny, List.filter_cons_of_pos hTextual, List.findSome?_cons]
              cases f.given last <;> simp [Option.or_assoc]
          | false =>
              have hShown : Overt home t := by
                refine hOvert.resolve_right fun hAll => ?_
                have hText := hAll last (by simp)
                rw [hTextual] at hText
                cases hText
              have hSame := hLeaves.unsaved hClear hTextual (hStill hShown)
              rw [load_eq, written_unchanged hSame, ← load_eq, ih]
              unfold Field.remembered
              rw [hSince, hAny, List.filter_cons_of_neg (by simp [hTextual])]

theorem value_expected {α : Type} {f : Field α} (hKept : f.Kept) {home : OsText} {t : FileTree}
    {earlier : List Given} (given : Given) (hWritable : Writable home t)
    (hOvert : Overt home t ∨ forall g, g ∈ earlier -> g.isTextual = true)
    (hEarlier : forall g, g ∈ earlier -> g.kept.Fits) :
    f.value (invoke given home (treeAfter home t earlier)).2 =
      f.expected (written home t) earlier given := by
  unfold Field.expected
  cases hClear : given.clear with
  | true =>
      rw [invoke_clear _ _ hClear, hKept.resolved, hKept.fresh]
      rfl
  | false =>
      rw [invoke_keep _ _ hClear, hKept.resolved, remembered_load hKept hWritable hOvert hEarlier]
      rfl

/-!
## Fields that are not kept
-/

structure Passing where
  targetTolerance : Float
  maxOzoneMinutes : Nat
  notificationSubject : String
  deviceRoot : OsText
  leakActiveLow : Bool
  logLevel : String
  logFile : Option OsText
  debug : Bool
  clear : Bool

def passing (s : Settings) : Passing :=
  ⟨s.targetTolerance, s.maxOzoneMinutes, s.notificationSubject, s.deviceRoot, s.leakActiveLow,
    s.logLevel, s.logFile, s.debug, s.clear⟩

def Given.passing (g : Given) : Passing :=
  ⟨g.targetTolerance.getD 0.5, g.maxOzoneMinutes.getD 120,
    g.notificationSubject.getD "Cold Plunge", g.deviceRoot.getD "/sys", g.leakActiveLow,
    if g.debug then "DEBUG" else g.logLevel.getD "INFO", g.logFile, g.debug, g.clear⟩

theorem passing_invoke (given : Given) (home : OsText) (t : FileTree) :
    (invoke given home t).2.passing = given.passing := by
  unfold invoke
  split <;> rfl

/-!
## The law
-/

/-- What an invocation comes to after some others, and what it leaves behind. -/
structure Precedence (home : OsText) (t : FileTree) (earlier : List Given) (given : Given)
    (tree : FileTree) (settings : Settings) : Prop where
  texts : forall f, f ∈ keptTexts -> f.value settings = f.expected (written home t) earlier given
  path : keptPath.value settings = keptPath.expected (written home t) earlier given
  counts : forall f, f ∈ keptCounts -> f.value settings = f.expected (written home t) earlier given
  passing : settings.passing = given.passing
  cleared : given.clear = true -> tree.contains (configurationPath home) = false
  saved : given.clear = false -> given.isTextual = true -> exists c text,
    tree.readText (configurationPath home) = .ok text ∧ Saved.text? c = some text ∧
      written home tree = some c ∧
      (forall f, f ∈ keptTexts -> f.saved c = f.value settings) ∧
      keptPath.saved c = keptPath.value settings ∧
      (forall f, f ∈ keptCounts -> f.saved c = f.value settings)
  unsaved : given.clear = false -> given.isTextual = false ->
    Unchanged home (treeAfter home t earlier) tree
  again : given.clear = false -> invoke given home tree = (tree, settings)

/--
The settings of an invocation come from its own command line, from the invocations that have been
saved since the configuration was cleared, from the file as it was at first and from the defaults,
in this order.  An invocation that clears leaves no file.  Any other one leaves the fields of its
settings, unless its path is no text: then it leaves the file as it was.  To repeat it changes
nothing.
-/
theorem settings_precedence_law {home : OsText} {t : FileTree} {earlier : List Given}
    {given : Given} (hWritable : Writable home t)
    (hOvert : Overt home t ∨ forall g, g ∈ given :: earlier -> g.isTextual = true)
    (hEarlier : forall g, g ∈ earlier -> g.Accepted) (hGiven : given.Accepted) :
    let outcome := invoke given home (treeAfter home t earlier)
    Precedence home t earlier given outcome.1 outcome.2 := by
  have hFits : forall g, g ∈ earlier -> g.kept.Fits := fun g hMem => accepted_fits (hEarlier g hMem)
  have hBefore : Overt home t ∨ forall g, g ∈ earlier -> g.isTextual = true :=
    hOvert.imp_right fun h g hMem => h g (List.mem_cons_of_mem _ hMem)
  rcases treeAfter_writable hWritable hFits with ⟨hThen, hStill⟩
  have hNow : given.isTextual = true ∨ Overt home (treeAfter home t earlier) :=
    hOvert.symm.imp (fun h => h given (List.mem_cons_self ..)) hStill
  have hLeaves := invoke_leaves hThen (accepted_fits hGiven)
  constructor
  · intro f hMem
    exact value_expected (kept_texts f hMem) given hWritable hBefore hFits
  · exact value_expected kept_path given hWritable hBefore hFits
  · intro f hMem
    exact value_expected (kept_counts f hMem) given hWritable hBefore hFits
  · exact passing_invoke given home _
  · exact hLeaves.cleared
  · intro hClear hTextual
    rcases hLeaves.kept hClear hTextual with ⟨text, hText, hRead, hWritten⟩
    refine ⟨_, text, hRead, hText, hWritten, ?_, kept_path.saved _, ?_⟩
    · intro f hMem
      exact (kept_texts f hMem).saved _
    · intro f hMem
      exact (kept_counts f hMem).saved _
  · intro hClear hTextual
    exact hLeaves.unsaved hClear hTextual (hNow.resolve_left (by simp [hTextual]))
  · intro hClear
    exact hLeaves.again hClear hNow

/-!
## A configuration that is cleared once

A file that names a pin is there at first.  The second invocation clears it, and says on its own
command line what the last one does not find.  The fourth one has a path that is no text.
-/

def oldDocument : String :=
  "\x7b\"leak_pin\": 5, \"store\": \"memory\"\x7d"

def oldTree : FileTree :=
  ⟨ [ (["config.json", ".coldplunge", "home"], .file oldDocument.toUTF8)
    , ([".coldplunge", "home"], .directory)
    , (["home"], .directory) ] ⟩

def untold : Given :=
  { databasePath := some ⟨[255]⟩, leakPin := some 9 }

def clearedOnce : List Given :=
  [ { sensors := some "sysfs", pumpPin := some 9 }
  , { clear := true, store := some "memory" }
  , { ozonePin := some 4, debug := true }
  , untold ]

theorem oldTree_writable : Writable "/home" oldTree := by
  have hSeat : Seat "/home" oldTree ["config.json", ".coldplunge", "home"]
      ["config.json.tmp", ".coldplunge", "home"] := by
    constructor
    · decide +kernel
    · rfl
    · exact FileTree.vacant_file rfl
    · rfl
    · exact FileTree.vacant_none rfl
  exact writable_of_seat hSeat

theorem oldTree_overt : Overt "/home" oldTree :=
  overt_of_leads (by decide +kernel)

theorem untold_accepted : untold.Accepted :=
  ⟨["--leak-pin", "9", "--db-path", ⟨[255]⟩], by decide +kernel⟩

theorem clearedOnce_accepted : forall g, g ∈ clearedOnce -> g.Accepted := by
  simp only [clearedOnce, List.forall_mem_cons, List.not_mem_nil, false_imp_iff, implies_true,
    and_true]
  exact
    ⟨⟨["--sensors", "sysfs", "--pump-pin=9"], by decide +kernel⟩
    , ⟨["--clear", "--store=memory"], by decide +kernel⟩
    , ⟨["--debug", "--ozone-pin", "4"], by decide +kernel⟩
    , untold_accepted⟩

theorem settings_precedence_law_clearedOnce :
    Writable "/home" oldTree ∧ Overt "/home" oldTree ∧
      (forall g, g ∈ clearedOnce -> g.Accepted) ∧ Given.Accepted { leakInterval := some 7 } ∧
      let outcome := invoke { leakInterval := some 7 } "/home"
        (treeAfter "/home" oldTree clearedOnce)
      Precedence "/home" oldTree clearedOnce { leakInterval := some 7 } outcome.1 outcome.2 := by
  have hGiven : Given.Accepted { leakInterval := some 7 } :=
    ⟨["--leak-interval", "7"], by decide +kernel⟩
  exact ⟨oldTree_writable, oldTree_overt, clearedOnce_accepted, hGiven,
    settings_precedence_law oldTree_writable (Or.inl oldTree_overt) clearedOnce_accepted hGiven⟩

/-!
## What is forgotten

The pin of a command line whose path is no text, and that of one that finds a directory at the
name of the draft.  Where the way to the configuration leads through a directory that is missing,
and out of it again, to make that directory can bring a configuration to light.
-/

def hinderedTree : FileTree :=
  ⟨ [ (["config.json.tmp", ".coldplunge", "home"], .directory)
    , ([".coldplunge", "home"], .directory)
    , (["home"], .directory) ] ⟩

def pinned : Given :=
  { leakPin := some 9, store := some "memory" }

theorem pinned_accepted : pinned.Accepted :=
  ⟨["--leak-pin", "9", "--store", "memory"], by decide +kernel⟩

theorem settings_precedence_forgotten :
    Given.Accepted {} ∧
    (untold.Accepted ∧ untold.clear = false ∧ Writable "/home" oldTree ∧
      let outcome := invoke untold "/home" oldTree
      outcome.2.leakPin = 9 ∧ outcome.1.readText (configurationPath "/home") = .ok oldDocument ∧
        (invoke {} "/home" outcome.1).2.leakPin = 5) ∧
    (pinned.Accepted ∧ pinned.clear = false ∧
      hinderedTree.leadsToDirectory (parentNames (configurationPath "/home")) = true ∧
      hinderedTree.contains (configurationPath "/home") = false ∧
      let outcome := invoke pinned "/home" hinderedTree
      outcome.2.leakPin = 9 ∧ outcome.1.contains (configurationPath "/home") = false ∧
        (invoke {} "/home" outcome.1).2.leakPin = 17) ∧
    (Writable "/away/../home" oldTree ∧
      oldTree.contains (configurationPath "/away/../home") = false ∧
      let outcome := invoke untold "/away/../home" oldTree
      outcome.2.store = "sqlite" ∧
        outcome.1.readText (configurationPath "/away/../home") = .ok oldDocument ∧
        (invoke untold "/away/../home" outcome.1).2.store = "memory") := by
  have hBare : Given.Accepted {} := ⟨[], by decide +kernel⟩
  have hMade : oldTree.ensureDirectories (parentNames (configurationPath "/away/../home")) =
      .ok (oldTree.put ["away"] .directory) := by rfl
  have hSeat : Seat "/away/../home" (oldTree.put ["away"] .directory)
      ["config.json", ".coldplunge", "home"] ["config.json.tmp", ".coldplunge", "home"] := by
    constructor
    · decide +kernel
    · rfl
    · exact FileTree.vacant_file rfl
    · rfl
    · exact FileTree.vacant_none rfl
  refine ⟨hBare, ⟨untold_accepted, rfl, oldTree_writable, ?_⟩, ⟨pinned_accepted, rfl, ?_⟩,
    ⟨_, _, _, hMade, hSeat⟩, ?_⟩
  · decide +kernel
  · decide +kernel
  · decide +kernel

end Settings
end TubMonitor
