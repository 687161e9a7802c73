import TubMonitor.Proofs.Isolation.Unwinding
import TubMonitor.Proofs.Ozone.Tracking

/-!
# The log of the ozone loop

What the ozone loop does and what it is told, line by line, each with its moment.  What
it answers to its clients is left out.
-/

namespace TubMonitor
namespace Ozone

open Monitor (Call Effect Reply callsOf notesOf)

inductive Line where
  | did (effect : Effect)
  | told (reply : Reply)

abbrev Log := List (Nat × Line)

def made (moment : Nat) (call : Call) : Nat × Line :=
  (moment, .did (.call call))

def said (moment : Nat) (text : String) : Nat × Line :=
  (moment, .did (.notify text))

def heard (moment : Nat) (reply : Reply) : Nat × Line :=
  (moment, .told reply)

def Event.lines (now : Nat) : Event -> Log
  | .reply answer => [heard now answer]
  | _ => []

def deeds (now : Nat) : List Effect -> Log
  | [] => []
  | .call call :: rest => made now call :: deeds now rest
  | .notify text :: rest => said now text :: deeds now rest
  | .acknowledge _ :: rest => deeds now rest

@[simp] theorem deeds_nil (now : Nat) : deeds now [] = [] := rfl

@[simp] theorem deeds_call (now : Nat) (call : Call) (rest : List Effect) :
    deeds now (.call call :: rest) = made now call :: deeds now rest := rfl

@[simp] theorem deeds_notify (now : Nat) (text : String) (rest : List Effect) :
    deeds now (.notify text :: rest) = said now text :: deeds now rest := rfl

@[simp] theorem deeds_acknowledge (now ticket : Nat) (rest : List Effect) :
    deeds now (.acknowledge ticket :: rest) = deeds now rest := rfl

@[simp] theorem deeds_append (now : Nat) (first second : List Effect) :
    deeds now (first ++ second) = deeds now first ++ deeds now second := by
  induction first with
  | nil => rfl
  | cons effect rest ih => cases effect <;> simp [ih]

/-!
## What is in a log
-/

def Line.call? : Nat × Line -> Option (Nat × Call)
  | (moment, .did (.call call)) => some (moment, call)
  | _ => none

def Line.note? : Nat × Line -> Option (Nat × String)
  | (moment, .did (.notify text)) => some (moment, text)
  | _ => none

/-- The calls that have been made, with their moments. -/
def Log.calls (log : Log) : List (Nat × Call) :=
  log.filterMap Line.call?

/-- The messages that have been tried to be sent, with their moments. -/
def Log.notes (log : Log) : List (Nat × String) :=
  log.filterMap Line.note?

theorem calls_append (first second : Log) :
    Log.calls (first ++ second) = first.calls ++ second.calls :=
  List.filterMap_append

theorem notes_append (first second : Log) :
    Log.notes (first ++ second) = first.notes ++ second.notes :=
  List.filterMap_append

@[simp] theorem calls_lines (now : Nat) (event : Event) : (event.lines now).calls = [] := by
  cases event <;> rfl

@[simp] theorem notes_lines (now : Nat) (event : Event) : (event.lines now).notes = [] := by
  cases event <;> rfl

@[simp] theorem calls_deeds (now : Nat) (effects : List Effect) :
    (deeds now effects).calls = (callsOf effects).map (now, ·) := by
  induction effects with
  | nil => rfl
  | cons effect rest ih =>
      cases effect with
      | call call => exact congrArg ((now, call) :: ·) ih
      | notify text => exact ih
      | acknowledge ticket => exact ih

@[simp] theorem notes_deeds (now : Nat) (effects : List Effect) :
    (deeds now effects).notes = (notesOf effects).map (now, ·) := by
  induction effects with
  | nil => rfl
  | cons effect rest ih =>
      cases effect with
      | call call => exact ih
      | notify text => exact congrArg ((now, text) :: ·) ih
      | acknowledge ticket => exact ih

theorem moment_lines {now : Nat} {event : Event} {line : Nat × Line}
    (h : line ∈ event.lines now) : line.1 = now := by
  cases event with
  | reply reply =>
      rw [List.mem_singleton.mp h]
      rfl
  | _ => cases h

theorem moment_deeds {now : Nat} {effects : List Effect} {line : Nat × Line}
    (h : line ∈ deeds now effects) : line.1 = now := by
  induction effects with
  | nil => cases h
  | cons effect rest ih =>
      cases effect with
      | acknowledge ticket => exact ih h
      | _ =>
          rcases List.mem_cons.mp h with rfl | hRest
          · rfl
          · exact ih hRest

end Ozone

namespace Monitor

open Ozone (Log deeds)

/-!
## The log of a course
-/

def Scene.ozoneLines (scene : Scene) : Log :=
  (scene.ozoneEvent?.map fun event => event.lines scene.before.now).getD [] ++
    deeds scene.before.now (scene.effects .ozone)

def ozoneLog (past : List Scene) : Log :=
  past.flatMap Scene.ozoneLines

theorem ozoneLog_concat (past : List Scene) (scene : Scene) :
    ozoneLog (past ++ [scene]) = ozoneLog past ++ scene.ozoneLines := by
  simp [ozoneLog]

section Lines

variable {s served next : Monitor} {h : Happening} {event : Ozone.Event}
  {result : Ozone.Controller × List Effect}

theorem apart_effects (hOrder : InOrder s) (hApart : OzoneApart s h (s.happen h)) :
    (Scene.mk s h).effects .ozone = [] := by
  cases h with
  | start =>
      cases hFresh : s.isFresh with
      | false => simp [Scene.effects, hFresh]
      | true =>
          have hDormant := ozone_unbegun hOrder hFresh
          have hSame := congrArg (fun worker => worker.state.phase) hApart.ozone
          change s.start.2.ozone.state.phase = s.ozone.state.phase at hSame
          rw [start_ozone_state hFresh, hDormant] at hSame
          cases hSame
  | _ => simp [Scene.effects, hApart.event]

theorem apart_lines (hOrder : InOrder s) (hApart : OzoneApart s h (s.happen h)) :
    (Scene.mk s h).ozoneLines = [] := by
  simp [Scene.ozoneLines, hApart.event, apart_effects hOrder hApart]

theorem start_lines (hFresh : s.isFresh = true) :
    (Scene.mk s .start).ozoneLines = [Ozone.made s.now (.store .latestEntry)] := by
  simp [Scene.ozoneLines, Scene.ozoneEvent?, Scene.effects, hFresh, Ozone.Controller.start]

theorem move_effects (hMoves : OzoneMoves s event result served next) :
    (Scene.mk s (.turn .ozone)).effects .ozone = result.2 := by
  simp [Scene.effects, hMoves.scene, Ozone.Controller.step_of_move hMoves.move]

theorem move_lines (hMoves : OzoneMoves s event result served next) :
    (Scene.mk s (.turn .ozone)).ozoneLines = event.lines s.now ++ deeds s.now result.2 := by
  simp [Scene.ozoneLines, hMoves.scene, move_effects hMoves]

theorem join_lines : (Scene.mk s .join).ozoneLines = [] := rfl

end Lines

/-!
## What the log has
-/

theorem ozoneLog_notes (past : List Scene) : (ozoneLog past).notes = attempts .ozone past := by
  induction past using List.reverseRecOn with
  | nil => rfl
  | append_singleton past scene ih =>
      have hLines : scene.ozoneLines.notes =
          (notesOf (scene.effects .ozone)).map (scene.before.now, ·) := by
        rw [Scene.ozoneLines, Ozone.notes_append, Ozone.notes_deeds]
        cases scene.ozoneEvent? with
        | none => rfl
        | some event => simp
      rw [ozoneLog_concat, Ozone.notes_append, ih, hLines]
      simp [attempts]

theorem ozoneLog_calls (config : Config) (now : Nat) (outside : Outside)
    (sink : Option Notice.Sink) (hs : List Happening) :
    (ozoneLog ((assemble config now outside sink).scenes hs)).calls =
      ((assemble config now outside sink).after hs).ozoneCalls.reverse := by
  induction hs using List.reverseRecOn with
  | nil => rfl
  | append_singleton hs h ih =>
      have hOrder := inOrder_after (inOrder_assemble config now outside sink) hs
      rw [scenes_concat, after_concat, ozoneLog_concat, Ozone.calls_append, ih]
      generalize (assemble config now outside sink).after hs = s at hOrder
      have hHappens := ozone_happens hOrder h
      generalize hNext : s.happen h = next at hHappens
      cases hHappens with
      | apart hApart =>
          subst hNext
          rw [apart_lines hOrder hApart, hApart.calls]
          exact List.append_nil _
      | start hFresh =>
          have hCalls : s.start.2.ozoneCalls = (s.now, .store .latestEntry) :: s.ozoneCalls := by
            rw [ozoneCalls, start_calls hFresh]
            rfl
          rw [start_lines hFresh, hCalls, List.reverse_cons]
          rfl
      | @move event result served _ hMoves =>
          rw [move_lines hMoves, Ozone.calls_append, Ozone.calls_lines, Ozone.calls_deeds,
            hMoves.calls, Ozone.Controller.move_calls hOrder.ozone.filed hMoves.move]
          cases result.1.call? <;> simp
      | join hCancelled hOver =>
          rw [join_lines]
          exact List.append_nil _

/-- The lines of a log stand in the order of their moments. -/
structure Chronological (now : Nat) (log : Log) : Prop where
  sorted : log.Pairwise fun earlier later => earlier.1 ≤ later.1
  past : forall line, line ∈ log -> line.1 ≤ now

theorem ozoneLog_chronological (config : Config) (now : Nat) (outside : Outside)
    (sink : Option Notice.Sink) (hs : List Happening) :
    Chronological ((assemble config now outside sink).after hs).now
      (ozoneLog ((assemble config now outside sink).scenes hs)) := by
  induction hs using List.reverseRecOn with
  | nil => exact ⟨List.Pairwise.nil, fun line hLine => by cases hLine⟩
  | append_singleton hs h ih =>
      rw [scenes_concat, after_concat, ozoneLog_concat]
      generalize (assemble config now outside sink).after hs = s at ih
      have hHere : forall line, line ∈ (Scene.mk s h).ozoneLines -> line.1 = s.now := by
        intro line hLine
        rcases List.mem_append.mp hLine with hTold | hDone
        · cases hEvent : (Scene.mk s h).ozoneEvent? with
          | none =>
              rw [hEvent] at hTold
              cases hTold
          | some event =>
              rw [hEvent] at hTold
              exact Ozone.moment_lines hTold
        · exact Ozone.moment_deeds hDone
      have hLater := now_happen s h
      constructor
      · refine List.pairwise_append.mpr ⟨ih.sorted, ?_, ?_⟩
        · refine List.pairwise_of_forall_mem_list fun first hFirst second hSecond => ?_
          exact Nat.le_of_eq ((hHere first hFirst).trans (hHere second hSecond).symm)
        · intro earlier hEarlier line hLine
          rw [hHere line hLine]
          exact ih.past earlier hEarlier
      · intro line hLine
        rcases List.mem_append.mp hLine with hBefore | hNow
        · exact Nat.le_trans (ih.past line hBefore) hLater
        · rw [hHere line hNow]
          exact hLater

end Monitor
end TubMonitor
