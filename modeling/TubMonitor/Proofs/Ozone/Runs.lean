import TubMonitor.Proofs.Ozone.Courses
import TubMonitor.Proofs.Ozone.Entries

/-!
# The law of ozone runs

Every run that is started begins once and ends once, by all the calls and messages that
this takes and by no others, whatever the calls meet with.
-/

namespace TubMonitor
namespace Ozone

/-!
## Beginnings and ends
-/

/-- Whether a message says that a run has begun or that one is over. -/
def sign? (text : String) : Option Bool :=
  if "Ozone started".toList.isPrefixOf text.toList then
    some true
  else if "Ozone stopped".toList.isPrefixOf text.toList then
    some false
  else
    none

def signs (notes : List (Nat × String)) : List Bool :=
  notes.filterMap fun note => sign? note.2

theorem signs_append (first second : Log) :
    signs (Log.notes (first ++ second)) = signs first.notes ++ signs second.notes := by
  rw [notes_append]
  exact List.filterMap_append

theorem sign?_started (text : String) :
    sign? ("Ozone started for " ++ text ++ " minutes") = some true := by
  simp only [sign?, String.toList_append]
  rfl

theorem sign?_stopped (text : String) : sign? ("Ozone stopped: " ++ text) = some false := by
  simp only [sign?, String.toList_append]
  rfl

/-- To say that the generator has failed to come on is not to say that the run has begun. -/
theorem sign?_failure (text : String) : sign? ("Failed to turn ozone on: " ++ text) = none := by
  simp only [sign?, String.toList_append]
  rfl

/-- To warn that the generator may still be on is not to say that the run is over. -/
theorem sign?_warning (text : String) :
    sign? ("Ozone generator may still be on: " ++ text) = none := by
  simp only [sign?, String.toList_append]
  rfl

theorem sign?_startNote (minutes : Nat) : sign? (startNote minutes) = some true :=
  sign?_started _

theorem sign?_stopNote (ending : Ending) : sign? (stopNote ending) = some false :=
  sign?_stopped _

theorem sign?_failureNote (why : Fault) : sign? (failureNote why) = none :=
  sign?_failure _

theorem signs_said (moment : Nat) (text : String) :
    signs (Log.notes [said moment text]) = (sign? text).toList := by
  show [(moment, text)].filterMap (fun note => sign? note.2) = _
  rw [List.filterMap_cons]
  cases sign? text <;> rfl

theorem signs_answeredOff (moment : Nat) (went : Except Fault Unit) :
    signs (answeredOff moment went).notes = [] := by
  cases went with
  | ok => rfl
  | error fault =>
      show signs (Log.notes [said moment ("Ozone generator may still be on: " ++ _)]) = []
      rw [signs_said, sign?_warning]
      rfl

theorem signs_entrance (entrance : Entrance) : signs entrance.lines.notes = [] := by
  rw [Entrance.lines, signs_append, signs_answeredOff]
  rfl

theorem signs_mishap (d : Debut) : signs d.mishap.notes = [] := by
  unfold Debut.mishap
  split
  · rfl
  · next why _ =>
      split
      · next id moment answer _ _ =>
          show signs (Log.notes [said moment (failureNote why)]) = []
          rw [signs_said, sign?_failureNote]
          rfl
      · rw [signs_said, sign?_failureNote]
        rfl

theorem signs_debut (d : Debut) : signs d.lines.notes = [true] := by
  rw [Debut.lines, signs_append, signs_append, signs_mishap, signs_said, sign?_startNote]
  rfl

theorem signs_departure (t : Stint) : signs t.departure.notes = [false] := by
  have hFiled : signs t.filed.notes = [] := by
    unfold Stint.filed
    split <;> rfl
  rw [Stint.departure, signs_append, signs_append, signs_append, signs_answeredOff, hFiled,
    signs_said, sign?_stopNote]
  rfl

theorem signs_stint (t : Stint) : signs t.lines.notes = [true, false] := by
  rw [Stint.lines, signs_append, signs_debut, signs_departure]
  rfl

/-- Beginnings and ends by turns, a beginning first. -/
def turnAbout (count : Nat) : List Bool :=
  (List.range count).map fun place => place % 2 == 0

theorem turnAbout_next (count : Nat) :
    turnAbout (count + 2) = true :: false :: turnAbout count := by
  have hSame (place : Nat) : ((place + 1 + 1) % 2 == 0) = (place % 2 == 0) := by
    rw [Nat.add_assoc, Nat.add_mod_right]
  simp [turnAbout, List.range_succ_eq_map, Function.comp_def, -List.map_inj_left, hSame]

theorem turnAbout_append (stints : List Stint) (count : Nat) :
    signs (Log.notes (stints.flatMap Stint.lines)) ++ turnAbout count =
      turnAbout (2 * stints.length + count) := by
  induction stints with
  | nil => simp [signs, Log.notes]
  | cons t rest ih =>
      rw [List.flatMap_cons, signs_append, signs_stint, List.append_assoc, ih]
      have hCount : 2 * (t :: rest).length + count = 2 * rest.length + count + 2 := by
        simp only [List.length_cons]
        omega
      rw [hCount, turnAbout_next]
      rfl

theorem turnAbout_prefix {signs : List Bool} {count : Nat} (h : signs <+: turnAbout count) :
    signs = turnAbout signs.length := by
  have hTake := List.prefix_iff_eq_take.mp h
  have hLength : signs.length ≤ count := by simpa [turnAbout] using h.length_le
  rw [turnAbout, ← List.map_take, List.take_range, Nat.min_eq_left hLength] at hTake
  exact hTake

theorem signs_part {a : Chronicle} {log : Log} (h : log <+: a.lines) :
    signs log.notes = turnAbout (signs log.notes).length := by
  have hCurrent : signs (Log.notes (a.current.toList.flatMap Debut.lines)) =
      turnAbout a.current.toList.length := by
    cases a.current with
    | none => rfl
    | some d =>
        simp only [Option.toList_some, List.flatMap_cons, List.flatMap_nil, List.append_nil]
        exact signs_debut d
  have hAll : signs a.lines.notes =
      turnAbout (2 * a.stints.length + a.current.toList.length) := by
    rw [Chronicle.lines, signs_append, signs_append, signs_entrance, List.nil_append, hCurrent,
      turnAbout_append]
  have hPart : signs log.notes <+: signs a.lines.notes :=
    List.IsPrefix.filterMap _ (List.IsPrefix.filterMap _ h)
  rw [hAll] at hPart
  exact turnAbout_prefix hPart

end Ozone

namespace Monitor

open Ozone (Chronicle Debut PartOf Tale signs turnAbout)

/-!
## The law
-/

theorem ozoneServes_command {s served : Monitor} {command : Ozone.Command} {ticket : Nat}
    (h : OzoneServes s (.command command ticket) served) :
    s.ozone.pending = none ∧ s.ozone.state.isWaiting = true ∧
      exists box, served = { s with ozoneBox := box } := by
  generalize hCommand : Ozone.Event.command command ticket = event at h
  cases h with
  | @command letter box hFree hWaiting hCancelled hEarly hTake =>
      exact ⟨hFree, hWaiting, box, rfl⟩
  | _ => cases hCommand

/-- To stop where nothing runs is to answer and to do nothing. -/
theorem stop_idle {s : Monitor} {ticket : Nat} (hIdle : s.ozone.state.active? = none)
    (hEvent : (Scene.mk s (.turn .ozone)).ozoneEvent? = some (.command .stop ticket)) :
    (Scene.mk s (.turn .ozone)).effects .ozone = [.acknowledge ticket] ∧
      (s.happen (.turn .ozone)).ozone = s.ozone ∧
      (s.happen (.turn .ozone)).calls = s.calls ∧
      (s.happen (.turn .ozone)).notices = s.notices ∧
      (s.happen (.turn .ozone)).outside = s.outside ∧
      (s.happen (.turn .ozone)).snapshot = s.snapshot := by
  rcases Option.map_eq_some_iff.mp hEvent with ⟨⟨event, served⟩, hHanded, hCommand⟩
  change s.ozoneEvent? = some (event, served) at hHanded
  change event = .command .stop ticket at hCommand
  subst hCommand
  rcases ozoneServes_command (ozoneEvent_serves hHanded) with ⟨hFree, hWaiting, box, rfl⟩
  have hPhase : s.ozone.state.phase = .waiting none := by
    rcases Ozone.Controller.isWaiting_iff.mp hWaiting with ⟨active, hPhase⟩
    have hNone : active = none := by simpa only [Ozone.Controller.active?, hPhase] using hIdle
    rw [hPhase, hNone]
  have hStep : s.ozone.state.step s.now (.command .stop ticket) =
      (s.ozone.state, [.acknowledge ticket]) :=
    Ozone.Controller.step_of_move (.spared ticket hPhase)
  generalize hNext : s.happen (.turn .ozone) = next
  have hHand : next = Monitor.handOzone { s with ozoneBox := box } (.command .stop ticket) := by
    simp [← hNext, happen, turn?, ozoneTurn?, hHanded]
  have hSame : s.ozone = ⟨s.ozone.state, none⟩ := by rw [← hFree]
  have hOzone : next.ozone = s.ozone := by
    rw [hHand, handOzone_ozone]
    dsimp only
    rw [hStep]
    exact hSame.symm
  refine ⟨by simp [Scene.effects, hEvent, hStep], hOzone, ?_, ?_, ?_, ?_⟩
  · simp [hHand, hStep]
  · simp [hHand, handOzone_notices, hStep]
  · simp [hHand]
  · simp only [snapshot, hOzone]
    simp [hHand]

/--
The law, in every state that can be reached.  Where the loop rests its log is, line by line,
its beginning, the runs that are over and the one in progress, each of which a command has
started; no run is ended by a deadline that is not its own.  Everywhere else the log breaks off
somewhere in such an account.  To stop where nothing runs is to do nothing.
-/
theorem ozone_runs_law (config : Config) (now : Nat) (outside : Outside)
    (sink : Option Notice.Sink) (hs : List Happening) :
    let past := (assemble config now outside sink).scenes hs
    let s := (assemble config now outside sink).after hs
    (s.ozone.state.isWaiting = true ∨ s.ozone.state.hasEnded = true ->
      exists a : Chronicle, ozoneLog past = a.lines ∧ a.Timely (Punctual past) ∧
        a.tales = tales past ∧ a.tales.map Tale.minutes = startedRuns past ∧
        a.current.map Debut.run = s.ozone.state.active?) ∧
      (exists a, PartOf a (ozoneLog past) (tales past) (Punctual past)) ∧
      (ozoneLog past).calls = s.ozoneCalls.reverse ∧
      (ozoneLog past).notes = attempts .ozone past ∧
      (exists count, signs (attempts .ozone past) = turnAbout count) ∧
      (forall ticket, s.ozone.state.active? = none ->
        (Scene.mk s (.turn .ozone)).ozoneEvent? = some (.command .stop ticket) ->
        (Scene.mk s (.turn .ozone)).effects .ozone = [.acknowledge ticket] ∧
          (s.happen (.turn .ozone)).ozone = s.ozone ∧
          (s.happen (.turn .ozone)).calls = s.calls ∧
          (s.happen (.turn .ozone)).notices = s.notices ∧
          (s.happen (.turn .ozone)).outside = s.outside ∧
          (s.happen (.turn .ozone)).snapshot = s.snapshot) := by
  intro past s
  have hAccounted : AccountedFor past s := accountedFor_after config now outside sink hs
  have hPart := Ozone.accounted_part hAccounted
  refine ⟨?_, hPart, ozoneLog_calls config now outside sink hs, ozoneLog_notes past, ?_, ?_⟩
  · intro hRest
    rcases Ozone.accounted_rest hAccounted hRest with ⟨a, hTimely, hLog, hTales, hCurrent⟩
    exact ⟨a, hLog, hTimely, hTales, hTales ▸ tales_minutes past, hCurrent⟩
  · rcases hPart with ⟨a, hPartOf⟩
    rw [← ozoneLog_notes]
    exact ⟨_, Ozone.signs_part hPartOf.lines⟩
  · exact fun ticket hIdle hEvent => stop_idle hIdle hEvent

theorem ozone_runs_law_twoRuns :
    (simulated.after twoRuns).ozone.state.isWaiting = true ∧
      exists (entrance : Ozone.Entrance) (t : Ozone.Stint) (d : Debut),
        ozoneLog (simulated.scenes twoRuns) = entrance.lines ++ t.lines ++ d.lines ∧
          t.tale = ⟨5, some "Replaced by new run"⟩ ∧ d.minutes = 7 ∧
          (simulated.after twoRuns).ozone.state.active? = some d.run := by
  have hWaiting : (simulated.after twoRuns).ozone.state.isWaiting = true := by decide +kernel
  have hTales : tales (simulated.scenes twoRuns) =
      [⟨5, some "Replaced by new run"⟩] ++ [⟨7, none⟩] := by decide +kernel
  have hActive : (simulated.after twoRuns).ozone.state.active?.isSome = true := by decide +kernel
  rcases (ozone_runs_law ⟨0, 0, 1.0, 60, ""⟩ 0 ⟨.tub .standard, .memory .empty, .fair⟩ none
      twoRuns).1 (Or.inl hWaiting) with ⟨⟨entrance, stints, current⟩, hLog, _, hSame, _, hRun⟩
  rcases Option.isSome_iff_exists.mp hActive with ⟨run, hSome⟩
  rcases Option.map_eq_some_iff.mp (hRun.trans hSome) with ⟨d, hCurrent, _⟩
  dsimp only at hCurrent
  subst hCurrent
  rcases List.append_inj' (hSame.trans hTales) rfl with ⟨hOver, hLast⟩
  rcases List.map_eq_singleton_iff.mp hOver with ⟨t, rfl, hTale⟩
  refine ⟨hWaiting, entrance, t, d, ?_, hTale, ?_, hRun.symm⟩
  · exact hLog.trans (by simp [Chronicle.lines])
  · exact congrArg Tale.minutes (List.cons.inj hLast).1

end Monitor
end TubMonitor
