import TubMonitor.Proofs.Mail.Desks
import TubMonitor.Proofs.Mail.Law

/-!
# Two lanes

The ozone loop and the temperature loop as desks.  Whatever happens to a monitor that has
been started or given up is a step of both.
-/

namespace TubMonitor

/-!
## What the ozone loop has to do
-/

namespace Ozone
namespace Controller

/-- A run in progress adds the deadline at which it is retired. -/
def load (c : Controller) : Nat :=
  2 * c.turnsLeft + if c.active?.isSome then 1 else 0

theorem load_le (c : Controller) : c.load ≤ 21 := by
  have hTurns := turnsLeft_le c
  unfold load
  split <;> omega

theorem move_lightens {now : Nat} {c : Controller} {event : Event}
    {result : Controller × List Monitor.Effect} (hOld : event.letters = [])
    (h : Move now c event result) : result.1.load < c.load := by
  cases hBegins : event.begins with
  | false =>
      have hFewer := move_winds hBegins h
      have hRun : result.1.load ≤ 2 * result.1.turnsLeft + 1 := by
        unfold load
        split <;> omega
      have hTurns : 2 * c.turnsLeft ≤ c.load := Nat.le_add_right _ _
      omega
  | true =>
      cases h with
      | expired hPhase hDue =>
          simp [load, turnsLeft, active?, hPhase, retire, Ending.turnsAfter]
      | spared | stopped | opened | replaced => cases hOld
      | _ => cases hBegins

end Controller
end Ozone

namespace Monitor

open Desk (Steps Works steps_refl)

def ozoneDesk (s : Monitor) : Desk Ozone.Command where
  box := s.ozoneBox
  held := s.ozone.state.held
  load := s.ozone.state.load
  due := (pendingDue s.ozone).getD 0

/-- The temperature loop is done with a command as soon as it takes it. -/
def targetDesk (s : Monitor) : Desk Temperature.Command where
  box := s.targetBox
  held := []
  load := s.temperature.state.turnsLeft
  due := (pendingDue s.temperature).getD 0

/-!
## The turns of the loops
-/

theorem ozone_works {s served : Monitor} {event : Ozone.Event} (hOrder : InOrder s)
    (hIdle : s.ozone.state.phase = .waiting none -> s.ozone.state.shown.running = false)
    (hEvent : s.ozoneEvent? = some (event, served)) :
    Works s.ozoneDesk (served.handOzone event).ozoneDesk := by
  have hServes := ozoneEvent_serves hEvent
  have hMove := ozone_move hOrder hServes
  rcases Ozone.Controller.move_answers hIdle hMove with ⟨acked, hAnswers⟩
  have hState : (served.handOzone event).ozone.state = (s.ozone.state.step s.now event).1 := by
    rcases ozoneServes_eq hServes with ⟨_, _, rfl⟩
    rw [handOzone_ozone]
  have hBox : (served.handOzone event).ozoneBox =
      if (s.ozone.state.step s.now event).1.hasEnded then .closed else served.ozoneBox := by
    rcases ozoneServes_eq hServes with ⟨_, _, rfl⟩
    rw [handOzone_ozoneBox]
  have hStill : (s.ozone.state.step s.now event).1.held ⊆ s.ozone.state.held ++ event.letters := by
    rw [hAnswers.kept]
    exact List.subset_append_right _ _
  cases hEnded : (s.ozone.state.step s.now event).1.hasEnded with
  | true =>
      refine .closed (by rw [ozoneDesk, hBox, hEnded]; rfl) ?_
      rw [ozoneDesk, hState]
      simp [Ozone.Controller.held, Ozone.Controller.hasEnded_iff.mp hEnded]
  | false =>
      rw [hEnded, if_neg Bool.false_ne_true] at hBox
      rw [← hState] at hStill
      cases hServes with
      | @command letter box hQuiet hWaiting hCancelled hEarly hTake =>
          have hFree : s.ozone.state.held = [] :=
            hAnswers.free (by simp [Ozone.Event.letters])
          rw [hFree] at hStill
          have hTaken := hTake.trans (congrArg (fun box => some (letter, box)) hBox.symm)
          exact .took hFree hTaken hStill
      | reply hPending hDue | cancel hQuiet hWaiting hCancelled
      | deadline hQuiet hRun hCancelled hDue =>
          simp only [Ozone.Event.letters, List.append_nil] at hStill
          refine .onward hBox hStill ?_
          rw [ozoneDesk, ozoneDesk, hState]
          exact Ozone.Controller.move_lightens rfl hMove

/-- A turn of the temperature loop is a tick, for which no command may be at hand, or it works. -/
theorem target_works {s served : Monitor} {event : Temperature.Event} (hOrder : InOrder s)
    (hEvent : s.temperatureEvent? = some (event, served)) :
    Works s.targetDesk (served.handTemperature event).targetDesk ∨
      (s.targetBox.slot = none ∧ (served.handTemperature event).targetBox = s.targetBox) := by
  have hServes := temperatureEvent_serves hEvent
  have hMove := temperature_move hOrder hServes
  have hState : (served.handTemperature event).temperature.state =
      (s.temperature.state.step s.now event).1 := by
    rcases temperatureServes_eq hServes with ⟨_, _, rfl⟩
    rw [handTemperature_temperature]
  have hBox : (served.handTemperature event).targetBox =
      if (s.temperature.state.step s.now event).1.hasEnded then .closed
      else served.targetBox := by
    rcases temperatureServes_eq hServes with ⟨_, _, rfl⟩
    rw [handTemperature_targetBox]
  cases hEnded : (s.temperature.state.step s.now event).1.hasEnded with
  | true => exact Or.inl (.closed (by rw [targetDesk, hBox, hEnded]; rfl) rfl)
  | false =>
      rw [hEnded, if_neg Bool.false_ne_true] at hBox
      cases hServes with
      | @command letter box hQuiet hWaiting hCancelled hTake =>
          left
          have hTaken := hTake.trans (congrArg (fun box => some (letter, box)) hBox.symm)
          exact .took rfl hTaken (List.nil_subset _)
      | tick hQuiet hTicker hWaiting hCancelled hEmpty hDue => exact Or.inr ⟨hEmpty, hBox⟩
      | reply hPending hDue | cancel hQuiet hWaiting hCancelled =>
          left
          refine .onward hBox (List.Subset.refl _) ?_
          rw [targetDesk, targetDesk, hState]
          exact Temperature.Sampler.move_winds rfl hMove

/-!
## All happenings
-/

structure BothStep (s next : Monitor) : Prop where
  ozone : Steps s.ozoneDesk next.ozoneDesk
  target : Steps s.targetDesk next.targetDesk

theorem bothStep_of_eq {s next : Monitor} (hOzone : next.ozoneDesk = s.ozoneDesk)
    (hTarget : next.targetDesk = s.targetDesk) : BothStep s next where
  ozone := hOzone ▸ steps_refl s.ozoneDesk
  target := hTarget ▸ steps_refl s.targetDesk

theorem posted_bothStep {s posted next : Monitor} {order : Console.Order} {ticket : Nat}
    (hSent : s.send order = (.ok ticket, posted)) (hOzone : next.ozoneDesk = posted.ozoneDesk)
    (hTarget : next.targetDesk = posted.targetDesk) : BothStep s next := by
  rcases (send_ok hSent).2 with ⟨_, _, _, _, hBox, rfl⟩ | ⟨_, _, _, _, hBox, rfl⟩
  · constructor
    · rw [hOzone]
      exact .posted hBox ⟨rfl, rfl, rfl⟩
    · rw [hTarget]
      exact steps_refl s.targetDesk
  · constructor
    · rw [hOzone]
      exact steps_refl s.ozoneDesk
    · rw [hTarget]
      exact .posted hBox ⟨rfl, rfl, rfl⟩

theorem console_bothStep {s served next : Monitor} {console : Worker Console.Session}
    {event : Console.Event} {state : Console.Session} {effects : List Console.Effect}
    (hConsole : s.console = some console)
    (hEvent : s.consoleEvent? console = some (event, served))
    (hActs : ConsoleActs served state effects next) : BothStep s next := by
  rcases consoleEvent_outside hConsole hEvent with ⟨outside, rfl, _⟩
  cases hActs with
  | @sent order ticket posted hSent =>
      rw [send_outside, Prod.mk.injEq] at hSent
      have hNext := hSent.2
      subst hNext
      exact posted_bothStep (Prod.ext hSent.1 rfl) rfl rfl
  | _ => exact bothStep_of_eq rfl rfl

theorem happen_bothStep {s : Monitor} (hOrder : InOrder s)
    (hIdle : s.ozone.state.phase = .waiting none -> s.ozone.state.shown.running = false)
    (hStale : s.isFresh = false) (h : Happening) : BothStep s (s.happen h) := by
  have hHappens := happens s h
  generalize s.happen h = next at hHappens
  cases hHappens with
  | ozone hEvent =>
      refine ⟨.works (ozone_works hOrder hIdle hEvent), ?_⟩
      rcases ozoneServes_eq (ozoneEvent_serves hEvent) with ⟨_, _, rfl⟩
      simp only [targetDesk, handOzone_targetBox, handOzone_temperature]
      exact steps_refl s.targetDesk
  | leak hEvent =>
      rcases leakServes_eq (leakEvent_serves hEvent) with ⟨_, rfl⟩
      exact bothStep_of_eq (by simp [ozoneDesk]) (by simp [targetDesk])
  | temperature hEvent =>
      constructor
      · rcases temperatureServes_eq (temperatureEvent_serves hEvent) with ⟨_, _, rfl⟩
        simp only [ozoneDesk, handTemperature_ozoneBox, handTemperature_ozone]
        exact steps_refl s.ozoneDesk
      · rcases target_works hOrder hEvent with hWorks | ⟨hEmpty, hBox⟩
        · exact .works hWorks
        · exact .busied hEmpty hBox rfl rfl
  | notices hStarted hRunning hActs => cases hActs <;> exact bothStep_of_eq rfl rfl
  | ozoneLine hRefill =>
      exact ⟨.refilled hRefill ⟨rfl, rfl, rfl⟩, steps_refl s.targetDesk⟩
  | targetLine hRefill =>
      exact ⟨steps_refl s.ozoneDesk, .refilled hRefill ⟨rfl, rfl, rfl⟩⟩
  | console hConsole hEvent hStep hActs => exact console_bothStep hConsole hEvent hActs
  | start hFresh =>
      rw [hStale] at hFresh
      cases hFresh
  | cancel =>
      rw [cancel_stale hStale]
      exact bothStep_of_eq rfl rfl
  | sent hSent => exact posted_bothStep hSent rfl rfl
  | _ => exact bothStep_of_eq rfl rfl

end Monitor
end TubMonitor
