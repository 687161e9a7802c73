import TubMonitor.Proofs.Leak.Readings
import TubMonitor.Proofs.Store.Undisturbed

/-!
# What happens to the leak loop

All that can happen, as far as the leak loop is concerned: it is left alone, begins, makes
a move or has its panel cleared once it is over.  What it has been told by its sensor and
what it has tried to say is read off the scenes.
-/

namespace TubMonitor
namespace Monitor

open Leak (History)

/-!
## What the loop has been told
-/

def Scene.sensed? (scene : Scene) : Option Sensors.Answer :=
  match scene.reply? .leak with
  | some (.sensors answer) => some answer
  | _ => none

/-- A reading of the leak detector, with its moment. -/
def Scene.reading? (scene : Scene) : Option (Nat × Except Fault Bool) :=
  match scene.sensed? with
  | some (.level outcome) => some (scene.before.now, outcome)
  | _ => none

def readings (past : List Scene) : List (Nat × Except Fault Bool) :=
  past.filterMap Scene.reading?

def leakNotes (past : List Scene) : List String :=
  (attempts .leak past).map Prod.snd

def history (past : List Scene) : History :=
  { edges := Leak.edges false (Leak.levels false (readings past))
    level := Leak.lastLevel false (Leak.levels false (readings past))
    told := Leak.told (past.filterMap Scene.sensed?)
    notes := leakNotes past }

theorem leakNotes_concat (past : List Scene) (scene : Scene) :
    leakNotes (past ++ [scene]) = leakNotes past ++ notesOf (scene.effects .leak) := by
  simp [leakNotes, attempts_concat, Function.comp_def]

theorem history_concat (past : List Scene) (scene : Scene) :
    history (past ++ [scene]) =
      ((history past).sense scene.before.now scene.sensed?).say
        (notesOf (scene.effects .leak)) := by
  unfold history
  rw [leakNotes_concat, readings, readings, List.filterMap_append, List.filterMap_append]
  cases hSensed : scene.sensed? with
  | none => simp [Scene.reading?, hSensed, History.sense, History.say]
  | some answer =>
      cases answer with
      | level outcome =>
          simp [Scene.reading?, hSensed, History.sense, History.say, Leak.levels_concat,
            Leak.edges_concat, Leak.told_concat]
      | _ =>
          simp [Scene.reading?, hSensed, History.sense, History.say, Leak.told_concat]

theorem history_silent {past : List Scene} {scene : Scene} (hSensed : scene.sensed? = none)
    (hEffects : scene.effects .leak = []) : history (past ++ [scene]) = history past := by
  rw [history_concat, hSensed, hEffects]
  exact History.say_nil _

theorem told_level (past : List Scene) : (history past).told.level = (history past).level := by
  induction past using List.reverseRecOn with
  | nil => rfl
  | append_singleton past scene ih =>
      rw [history_concat]
      cases hSensed : scene.sensed? with
      | none => exact ih
      | some answer =>
          cases answer with
          | level outcome =>
              show outcome.toOption.getD (history past).told.level = _
              rw [ih]
              rfl
          | _ => exact ih

/-!
## The inversion
-/

/-- The loop is left alone, and so are its rows if nobody else writes in its table. -/
structure LeakApart (s : Monitor) (h : Happening) (next : Monitor) : Prop where
  leak : next.leak = s.leak
  now : s.now ≤ next.now
  event : (Scene.mk s h).leakEvent? = none
  effects : (Scene.mk s h).effects .leak = []
  rows : (Scene.mk s h).Undisturbed .leak ->
    next.outside.store.only .leak = s.outside.store.only .leak

structure LeakMoves (s : Monitor) (event : Leak.Event) (result : Leak.Watch × List Effect)
    (served next : Monitor) : Prop where
  scene : (Scene.mk s (.turn .leak)).leakEvent? = some event
  serves : LeakServes s event served
  move : Leak.Watch.Move s.now s.leak.state event result
  step : s.leak.state.step s.now event = result
  leak : next.leak = ⟨result.1, s.placedLast result.2⟩
  now : next.now = s.now
  outside : next.outside = served.outside
  effects : (Scene.mk s (.turn .leak)).effects .leak = result.2

inductive LeakHappens (s : Monitor) : Happening -> Monitor -> Prop where
  | apart {h : Happening} {next : Monitor} (hApart : LeakApart s h next) : LeakHappens s h next
  | start (hFresh : s.isFresh = true) : LeakHappens s .start s.start.2
  | move {event : Leak.Event} {result : Leak.Watch × List Effect} {served next : Monitor}
      (hMoves : LeakMoves s event result served next) : LeakHappens s (.turn .leak) next
  | join (hCancelled : s.isCancelled = true) (hOver : s.isOver = true) :
      LeakHappens s .join s.join

theorem leak_effects_none {s : Monitor} {h : Happening} (hEvent : (Scene.mk s h).leakEvent? = none)
    (hFresh : h = .start -> s.isFresh = false) : (Scene.mk s h).effects .leak = [] := by
  cases h with
  | start => simp [Scene.effects, hFresh rfl]
  | _ => simp [Scene.effects, hEvent]

theorem aside_start {s next : Monitor} (hAside : Aside s .start next)
    (hNext : s.happen .start = next) : s.isFresh = false := by
  cases hFresh : s.isFresh with
  | false => rfl
  | true =>
      have hStarted : s.isStarted = true := by
        rw [← hAside.isStarted, ← hNext]
        exact start_isStarted hFresh
      simp [isFresh, hStarted] at hFresh

theorem leak_moves {s served : Monitor} {event : Leak.Event} (hOrder : InOrder s)
    (hEvent : s.leakEvent? = some (event, served)) :
    LeakMoves s event (s.leak.state.step s.now event) served (served.handLeak event) := by
  have hServes := leakEvent_serves hEvent
  have hMove := leak_move hOrder hServes
  have hScene : (Scene.mk s (.turn .leak)).leakEvent? = some event := by
    simp [Scene.leakEvent?, hEvent]
  have hEffects : (Scene.mk s (.turn .leak)).effects .leak =
      (s.leak.state.step s.now event).2 := by
    simp [Scene.effects, hScene]
  have hPlaced := leakServes_placed hServes
  rcases leakServes_eq hServes with ⟨_, rfl⟩
  refine ⟨hScene, hServes, hMove, rfl, ?_, handLeak_now .., handLeak_outside .., hEffects⟩
  rw [handLeak_leak, placedLast, hPlaced]
  rfl

theorem leak_happens {s : Monitor} (hOrder : InOrder s) (h : Happening) :
    LeakHappens s h (s.happen h) := by
  generalize hNext : s.happen h = next
  have hActs : Acts s h next := hNext ▸ acts s h
  cases hActs with
  | aside hAside =>
      refine .apart ⟨hAside.leak, hAside.now, hAside.leakEvent, ?_, ?_⟩
      · apply leak_effects_none hAside.leakEvent
        rintro rfl
        exact aside_start hAside hNext
      · exact outsideAside_rows hOrder hAside.outside
  | leak hEvent => exact .move (leak_moves hOrder hEvent)
  | ozone hEvent =>
      have hSame : Same .leak s _ := ozone_same hOrder (ozoneEvent_serves hEvent) (by decide)
      exact .apart ⟨hSame.loop, Nat.le_of_eq hSame.now.symm, rfl, rfl, fun _ => hSame.rows⟩
  | temperature hEvent =>
      have hSame : Same .leak s _ :=
        temperature_same hOrder (temperatureEvent_serves hEvent) (by decide)
      exact .apart ⟨hSame.loop, Nat.le_of_eq hSame.now.symm, rfl, rfl, fun _ => hSame.rows⟩
  | start hFresh => exact .start hFresh
  | cancel =>
      exact .apart ⟨cancel_leak s, Nat.le_of_eq (cancel_now s).symm, rfl, rfl,
        fun _ => by rw [cancel_outside]⟩
  | join hCancelled hOver => exact .join hCancelled hOver

/-!
## Replies
-/

section Replies

variable {s served : Monitor}

theorem leakServes_stored {request : Store.Request} {answer : Store.Answer}
    (hServes : LeakServes s (.reply (.store answer)) served)
    (hCall : s.leak.pending.map Pending.call = some (.store request))
    (hOk : answer.isOk = true) :
    answer = (s.outside.store.answer (Time.instantOf s.now) request).1 ∧
      served.outside.store = (s.outside.store.answer (Time.instantOf s.now) request).2 := by
  generalize hEvent : Leak.Event.reply (.store answer) = event at hServes
  cases hServes with
  | @reply pending hPending hDue =>
      rw [hPending] at hCall
      have hRequest : pending.call = .store request := Option.some.inj hCall
      rw [hRequest] at hEvent ⊢
      exact answer_stored (Leak.Event.reply.inj hEvent).symm hOk
  | _ => cases hEvent

theorem leakServes_unstored {event : Leak.Event} (hServes : LeakServes s event served)
    (hEvent : forall answer, event ≠ .reply (.store answer)) :
    served.outside.store = s.outside.store := by
  cases hServes with
  | @reply pending hPending hDue =>
      cases hCall : pending.call with
      | sensors request => exact answer_sensors_store ..
      | store request =>
          have hFits := answer_fits s.outside s.now pending.call
          rw [hCall] at hFits hEvent
          cases hReply : (s.outside.answer s.now (.store request)).1 with
          | store answer => exact absurd (congrArg Leak.Event.reply hReply) (hEvent answer)
          | sensors answer =>
              rw [hReply] at hFits
              cases hFits
  | _ => rfl

end Replies

end Monitor
end TubMonitor
