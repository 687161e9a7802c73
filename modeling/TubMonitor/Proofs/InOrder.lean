import TubMonitor.Proofs.Happenings
import TubMonitor.Proofs.Leak.Moves
import TubMonitor.Proofs.Ozone.Moves
import TubMonitor.Proofs.Temperature.Moves

/-!
# Loops in order

In every course of events each loop has under way exactly the call whose reply its
phase waits for, and it has begun if and only if the monitor has been started.  Hence
whatever a loop is handed is what it waits for, and it makes one of its moves.  The
console calls for the pump only.
-/

namespace TubMonitor
namespace Monitor

/-!
## The invariant
-/

structure OzoneInOrder (worker : Worker Ozone.Controller) (isStarted : Bool) : Prop where
  call : worker.pending.map Pending.call = worker.state.call?
  filed : worker.state.Filed
  begun : worker.state.phase = .dormant ↔ isStarted = false

structure LeakInOrder (worker : Worker Leak.Watch) (isStarted : Bool) : Prop where
  expects : worker.state.Expects (worker.pending.map Pending.call)
  begun : worker.state.phase = .dormant ↔ isStarted = false

structure TemperatureInOrder (worker : Worker Temperature.Sampler) (isStarted : Bool) :
    Prop where
  expects : worker.state.Expects (worker.pending.map Pending.call)
  begun : worker.state.phase = .dormant ↔ isStarted = false

structure InOrder (s : Monitor) : Prop where
  ozone : OzoneInOrder s.ozone s.isStarted
  leak : LeakInOrder s.leak s.isStarted
  temperature : TemperatureInOrder s.temperature s.isStarted
  console : forall pending, s.ConsoleAsks pending -> isPumpCall pending.call = true

theorem placedLast_of_calls {s : Monitor} {effects : List Effect} {call? : Option Call}
    (h : callsOf effects = call?.toList) : s.placedLast effects = call?.map s.placed := by
  cases call? <;> simp [placedLast, h]

theorem map_call_placed (s : Monitor) (call? : Option Call) :
    (call?.map s.placed).map Pending.call = call? := by
  cases call? <;> rfl

/-!
## What is handed over is waited for
-/

theorem ozone_awaits {s served : Monitor} {event : Ozone.Event} (hOrder : InOrder s)
    (hServes : OzoneServes s event served) : s.ozone.state.Awaits s.now event := by
  cases hServes with
  | @reply pending hPending hDue =>
      have hCall := hOrder.ozone.call
      rw [hPending] at hCall
      exact .reply hCall.symm (answer_fits s.outside s.now pending.call)
  | cancel hFree hWaiting hCancelled => exact .cancel hWaiting
  | deadline hFree hRun hCancelled hDue => exact .deadline hRun hDue
  | command hFree hWaiting hCancelled hEarly hTake => exact .command _ _ hWaiting

theorem leak_awaits {s served : Monitor} {event : Leak.Event} (hOrder : InOrder s)
    (hServes : LeakServes s event served) : s.leak.state.Awaits s.now event := by
  cases hServes with
  | @reply pending hPending hDue =>
      have hExpects := hOrder.leak.expects
      rw [hPending] at hExpects
      exact .reply hExpects (answer_fits s.outside s.now pending.call)
  | cancel hFree hTicker hCancelled => exact .cancel hTicker
  | tick hFree hTicker hCancelled hDue => exact .tick hTicker hDue

theorem temperature_awaits {s served : Monitor} {event : Temperature.Event}
    (hOrder : InOrder s) (hServes : TemperatureServes s event served) :
    s.temperature.state.Awaits s.now event := by
  cases hServes with
  | @reply pending hPending hDue =>
      have hExpects := hOrder.temperature.expects
      rw [hPending] at hExpects
      exact .reply hExpects (answer_fits s.outside s.now pending.call)
  | cancel hFree hWaiting hCancelled => exact .cancel hWaiting
  | command hFree hWaiting hCancelled hTake =>
      have hExpects := hOrder.temperature.expects
      rw [hFree] at hExpects
      exact .command _ _ hExpects hWaiting
  | tick hFree hTicker hWaiting hCancelled hEmpty hDue => exact .tick hTicker hDue

theorem ozone_move {s served : Monitor} {event : Ozone.Event} (hOrder : InOrder s)
    (hServes : OzoneServes s event served) :
    Ozone.Controller.Move s.now s.ozone.state event (s.ozone.state.step s.now event) :=
  Ozone.Controller.step_moves (ozone_awaits hOrder hServes)

theorem leak_move {s served : Monitor} {event : Leak.Event} (hOrder : InOrder s)
    (hServes : LeakServes s event served) :
    Leak.Watch.Move s.now s.leak.state event (s.leak.state.step s.now event) :=
  Leak.Watch.step_moves (leak_awaits hOrder hServes)

theorem temperature_move {s served : Monitor} {event : Temperature.Event}
    (hOrder : InOrder s) (hServes : TemperatureServes s event served) :
    Temperature.Sampler.Move s.now s.temperature.state event
      (s.temperature.state.step s.now event) :=
  Temperature.Sampler.step_moves (temperature_awaits hOrder hServes)

/-!
## Who makes a move goes on
-/

theorem ozone_goesOn {s served : Monitor} {event : Ozone.Event} (hOrder : InOrder s)
    (hServes : OzoneServes s event served) :
    s.isStarted = true ∧ s.ozone.state.hasEnded = false := by
  have hMove := ozone_move hOrder hServes
  refine ⟨?_, Ozone.Controller.move_running hMove⟩
  simpa using mt hOrder.ozone.begun.mpr (Ozone.Controller.move_begun hMove).1

theorem leak_goesOn {s served : Monitor} {event : Leak.Event} (hOrder : InOrder s)
    (hServes : LeakServes s event served) :
    s.isStarted = true ∧ s.leak.state.hasEnded = false := by
  have hMove := leak_move hOrder hServes
  refine ⟨?_, Leak.Watch.move_running hMove⟩
  simpa using mt hOrder.leak.begun.mpr (Leak.Watch.move_begun hMove).1

theorem temperature_goesOn {s served : Monitor} {event : Temperature.Event}
    (hOrder : InOrder s) (hServes : TemperatureServes s event served) :
    s.isStarted = true ∧ s.temperature.state.hasEnded = false := by
  have hMove := temperature_move hOrder hServes
  refine ⟨?_, Temperature.Sampler.move_running hMove⟩
  simpa using mt hOrder.temperature.begun.mpr (Temperature.Sampler.move_begun hMove).1

/-!
## Every course keeps the loops in order
-/

theorem inOrder_assemble (config : Config) (now : Nat) (outside : Outside)
    (sink : Option Notice.Sink) : InOrder (assemble config now outside sink) where
  ozone :=
    { call := rfl
      filed := trivial
      begun := by simp [assemble, Ozone.Controller.dormant] }
  leak :=
    { expects := .dormant rfl
      begun := by simp [assemble, Leak.Watch.dormant] }
  temperature :=
    { expects := .dormant rfl
      begun := by simp [assemble, Temperature.Sampler.dormant] }
  console := fun _ hAsks => absurd hAsks (not_consoleAsks_none rfl)

theorem handOzone_inOrder {s served : Monitor} {event : Ozone.Event} (hOrder : InOrder s)
    (hServes : OzoneServes s event served) : InOrder (served.handOzone event) := by
  have hMove := ozone_move hOrder hServes
  have hBegun := (Ozone.Controller.move_begun hMove).2
  have hStarted := (ozone_goesOn hOrder hServes).1
  rcases ozoneServes_eq hServes with ⟨_, _, rfl⟩
  constructor
  · rw [handOzone_ozone, handOzone_isStarted]
    dsimp only
    rw [hStarted]
    exact
      { call := by
          rw [placedLast_of_calls (Ozone.Controller.move_calls hOrder.ozone.filed hMove),
            map_call_placed]
        filed := Ozone.Controller.move_filed hOrder.ozone.filed hMove
        begun := by simpa using hBegun }
  · rw [handOzone_leak, handOzone_isStarted]
    exact hOrder.leak
  · rw [handOzone_temperature, handOzone_isStarted]
    exact hOrder.temperature
  · simpa only [ConsoleAsks, handOzone_console] using hOrder.console

theorem handLeak_inOrder {s served : Monitor} {event : Leak.Event} (hOrder : InOrder s)
    (hServes : LeakServes s event served) : InOrder (served.handLeak event) := by
  have hMove := leak_move hOrder hServes
  have hBegun := (Leak.Watch.move_begun hMove).2
  have hStarted := (leak_goesOn hOrder hServes).1
  rcases leakServes_eq hServes with ⟨_, rfl⟩
  constructor
  · rw [handLeak_ozone, handLeak_isStarted]
    exact hOrder.ozone
  · rw [handLeak_leak, handLeak_isStarted]
    dsimp only
    rw [hStarted]
    exact
      { expects := by
          rcases Leak.Watch.move_asks hMove with ⟨call?, hExpects, hCalls⟩
          rw [placedLast_of_calls hCalls, map_call_placed]
          exact hExpects
        begun := by simpa using hBegun }
  · rw [handLeak_temperature, handLeak_isStarted]
    exact hOrder.temperature
  · simpa only [ConsoleAsks, handLeak_console] using hOrder.console

theorem handTemperature_inOrder {s served : Monitor} {event : Temperature.Event}
    (hOrder : InOrder s) (hServes : TemperatureServes s event served) :
    InOrder (served.handTemperature event) := by
  have hMove := temperature_move hOrder hServes
  have hBegun := (Temperature.Sampler.move_begun hMove).2
  have hStarted := (temperature_goesOn hOrder hServes).1
  rcases temperatureServes_eq hServes with ⟨_, _, rfl⟩
  constructor
  · rw [handTemperature_ozone, handTemperature_isStarted]
    exact hOrder.ozone
  · rw [handTemperature_leak, handTemperature_isStarted]
    exact hOrder.leak
  · rw [handTemperature_temperature, handTemperature_isStarted]
    dsimp only
    rw [hStarted]
    exact
      { expects := by
          rcases Temperature.Sampler.move_asks hMove with ⟨call?, hExpects, hCalls⟩
          rw [placedLast_of_calls hCalls, map_call_placed]
          exact hExpects
        begun := by simpa using hBegun }
  · simpa only [ConsoleAsks, handTemperature_console] using hOrder.console

theorem start_inOrder {s : Monitor} (hOrder : InOrder s) (hFresh : s.isFresh = true) :
    InOrder s.start.2 := by
  have hSampler := Temperature.Sampler.start_expects s.config.temperaturePeriod
    s.config.tolerance s.now
  have hBegun := Temperature.Sampler.start_begun s.config.temperaturePeriod
    s.config.tolerance s.now
  rw [start_fresh hFresh]
  dsimp only
  split
  all_goals
    exact
      { ozone :=
          { call := rfl
            filed := trivial
            begun := by simp [Ozone.Controller.start] }
        leak :=
          { expects := .loading rfl
            begun := by simp [Leak.Watch.start] }
        temperature :=
          { expects := hSampler
            begun := by simpa using hBegun }
        console := hOrder.console }

theorem join_inOrder {s : Monitor} (hOrder : InOrder s) : InOrder s.join where
  ozone :=
    { call := hOrder.ozone.call
      filed := hOrder.ozone.filed
      begun := hOrder.ozone.begun }
  leak :=
    { expects := Leak.Watch.reset_expects hOrder.leak.expects
      begun := hOrder.leak.begun }
  temperature :=
    { expects := Temperature.Sampler.reset_expects hOrder.temperature.expects
      begun := hOrder.temperature.begun }
  console := hOrder.console

theorem inOrder_happen {s : Monitor} (hOrder : InOrder s) (h : Happening) :
    InOrder (s.happen h) := by
  generalize hNext : s.happen h = next
  have hActs : Acts s h next := hNext ▸ acts s h
  cases hActs with
  | aside hAside =>
      constructor
      · rw [hAside.ozone, hAside.isStarted]
        exact hOrder.ozone
      · rw [hAside.leak, hAside.isStarted]
        exact hOrder.leak
      · rw [hAside.temperature, hAside.isStarted]
        exact hOrder.temperature
      · intro pending hAsks
        rcases hAside.asks pending hAsks with hBefore | hPump
        · exact hOrder.console pending hBefore
        · exact hPump
  | ozone hEvent => exact handOzone_inOrder hOrder (ozoneEvent_serves hEvent)
  | leak hEvent => exact handLeak_inOrder hOrder (leakEvent_serves hEvent)
  | temperature hEvent => exact handTemperature_inOrder hOrder (temperatureEvent_serves hEvent)
  | start hFresh => exact start_inOrder hOrder hFresh
  | cancel =>
      constructor
      · rw [cancel_ozone, cancel_isStarted]
        exact hOrder.ozone
      · rw [cancel_leak, cancel_isStarted]
        exact hOrder.leak
      · rw [cancel_temperature, cancel_isStarted]
        exact hOrder.temperature
      · simpa only [ConsoleAsks, cancel_console] using hOrder.console
  | join hCancelled hOver => exact join_inOrder hOrder

theorem inOrder_after {s : Monitor} (hOrder : InOrder s) (hs : List Happening) :
    InOrder (s.after hs) :=
  after_invariant InOrder hOrder (fun _ h hBefore => inOrder_happen hBefore h) hs

/-!
## Before and after the loops
-/

section

variable {s : Monitor} (hOrder : InOrder s)

include hOrder

theorem ozone_unbegun (hFresh : s.isFresh = true) : s.ozone.state.phase = .dormant :=
  hOrder.ozone.begun.mpr (by simp_all [isFresh])

theorem leak_unbegun (hFresh : s.isFresh = true) : s.leak.state.phase = .dormant :=
  hOrder.leak.begun.mpr (by simp_all [isFresh])

theorem temperature_unbegun (hFresh : s.isFresh = true) :
    s.temperature.state.phase = .dormant :=
  hOrder.temperature.begun.mpr (by simp_all [isFresh])

theorem ozone_over (hOver : s.isOver = true) :
    s.ozone.state.phase = .dormant ∨ s.ozone.state.phase = .ended := by
  cases hStarted : s.isStarted with
  | false => exact Or.inl (hOrder.ozone.begun.mpr hStarted)
  | true =>
      exact Or.inr (Ozone.Controller.hasEnded_iff.mp (s.isOver_iff.mp hOver hStarted).1)

theorem leak_over (hOver : s.isOver = true) :
    s.leak.state.phase = .dormant ∨ s.leak.state.phase = .ended ∨
      s.leak.state.phase = .failed := by
  cases hStarted : s.isStarted with
  | false => exact Or.inl (hOrder.leak.begun.mpr hStarted)
  | true =>
      have hEnded := (s.isOver_iff.mp hOver hStarted).2.1
      unfold Leak.Watch.hasEnded at hEnded
      cases hPhase : s.leak.state.phase with
      | ended => exact Or.inr (Or.inl rfl)
      | failed => exact Or.inr (Or.inr rfl)
      | _ =>
          rw [hPhase] at hEnded
          cases hEnded

end

/-!
## Whole courses
-/

/--
What holds at first, and is kept by each scene that is allowed, holds after every course of
events that are.
-/
theorem scenes_invariant {s : Monitor} (hOrder : InOrder s) (allows : Scene -> Prop)
    (holds : List Scene -> Monitor -> Prop) (hStart : holds [] s)
    (hHappen : forall past before h, InOrder before -> allows ⟨before, h⟩ ->
      holds past before -> holds (past ++ [⟨before, h⟩]) (before.happen h))
    (hs : List Happening) (hAllows : forall scene, scene ∈ s.scenes hs -> allows scene) :
    holds (s.scenes hs) (s.after hs) := by
  induction hs using List.reverseRecOn with
  | nil => exact hStart
  | append_singleton hs h ih =>
      rw [scenes_concat] at hAllows
      have hBefore := ih fun scene hMem => hAllows scene (List.mem_append_left _ hMem)
      have hLast := hAllows _ (List.mem_append_right _ (List.mem_singleton_self _))
      rw [scenes_concat, after_concat]
      exact hHappen _ _ h (inOrder_after hOrder hs) hLast hBefore

end Monitor
end TubMonitor
