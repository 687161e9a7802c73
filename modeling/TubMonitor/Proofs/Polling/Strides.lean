import TubMonitor.Proofs.Leak.Scenes
import TubMonitor.Proofs.Polling.Gaits
import TubMonitor.Proofs.Temperature.Rows

/-!
# Strides of the loops

Whatever happens to the leak loop and to the temperature loop is a stride of each: it takes
a tick, has dealt with one, makes its ticker, ends or is left as it stands.
-/

namespace TubMonitor

open Time (Gait Stride Ticker)

namespace Monitor

/-!
## Ticks
-/

inductive Poller where
  | leak
  | temperature

namespace Poller

def turn : Poller -> Turn
  | leak => .leak
  | temperature => .temperature

def source : Poller -> Notice.Source
  | leak => .leak
  | temperature => .temperature

def period (config : Config) : Poller -> Nat
  | leak => config.leakPeriod
  | temperature => config.temperaturePeriod

/-- What ticks for the loop, while it waits for a tick. -/
def ticker? (s : Monitor) : Poller -> Option Ticker
  | leak => s.leak.state.ticker?
  | temperature => s.temperature.state.ticker?

def gait (s : Monitor) : Poller -> Gait
  | leak => s.leak.state.gait
  | temperature => s.temperature.state.gait

theorem gait_waiting {s : Monitor} {loop : Poller} {ticker : Ticker} :
    loop.gait s = .waiting ticker ↔ loop.ticker? s = some ticker := by
  cases loop with
  | leak => exact Leak.Watch.gait_waiting
  | temperature => exact Temperature.Sampler.gait_waiting

end Poller

/-- The ticker of the leak loop is made, once the first reading has been dealt with. -/
def Scene.seeds (scene : Scene) : Bool :=
  scene.before.leak.state.ticker.isNone && scene.after.leak.state.ticker.isSome

/-- The loop takes a tick; the leak loop takes the first one when its ticker is made. -/
def Scene.takes (scene : Scene) : Poller -> Bool
  | .leak => scene.leakEvent?.any Leak.Event.isTick || scene.seeds
  | .temperature => scene.temperatureEvent?.any Temperature.Event.isTick

def Scene.rests (scene : Scene) (loop : Poller) : Bool :=
  (scene.reply? loop.source).isSome && (loop.ticker? scene.after).isSome

def momentsOf (holds : Scene -> Bool) (past : List Scene) : List Nat :=
  (past.filter holds).map fun scene => scene.before.now

def ticks (loop : Poller) (past : List Scene) : List Nat :=
  momentsOf (fun scene => scene.takes loop) past

def ends (loop : Poller) (past : List Scene) : List Nat :=
  momentsOf (fun scene => scene.rests loop) past

theorem momentsOf_concat (holds : Scene -> Bool) (past : List Scene) (scene : Scene) :
    momentsOf holds (past ++ [scene]) =
      momentsOf holds past ++ (if holds scene then [scene.before.now] else []) := by
  cases hHolds : holds scene <;> simp [momentsOf, hHolds]

/-!
## Strides of the leak loop
-/

section Strides

variable {s next : Monitor} {h : Happening}

def Strides (loop : Poller) (s : Monitor) (h : Happening) (next : Monitor) : Prop :=
  Stride (loop.period s.config) s.now (s.isCancelled = false) (loop.gait s) (loop.gait next)
    (if (Scene.mk s h).takes loop then [s.now] else [])
    (if (Scene.mk s h).rests loop then [s.now] else [])

/-- The loop has been told the period of its ticks when it began. -/
def LeakTold (s : Monitor) : Prop :=
  s.leak.state.phase ≠ .dormant -> s.leak.state.period = s.config.leakPeriod

theorem strides_still {loop : Poller} (hGait : loop.gait next = loop.gait s)
    (hTakes : (Scene.mk s h).takes loop = false) (hRests : (Scene.mk s h).rests loop = false) :
    Strides loop s h next := by
  unfold Strides
  rw [hGait, hTakes, hRests]
  exact .still _

theorem leak_strides_apart (hNext : s.happen h = next) (hApart : LeakApart s h next) :
    Strides .leak s h next := by
  subst hNext
  apply strides_still
  · show (s.happen h).leak.state.gait = s.leak.state.gait
    rw [hApart.leak]
  · have hSeeds : (Scene.mk s h).seeds = false := by
      simp only [Scene.seeds, Scene.after]
      rw [hApart.leak]
      cases s.leak.state.ticker <;> rfl
    simp [Scene.takes, hApart.event, hSeeds]
  · simp [Scene.rests, Poller.source, Scene.reply?, hApart.event]

theorem leak_strides_move {event : Leak.Event} {result : Leak.Watch × List Effect}
    {served : Monitor} (hOrder : InOrder s) (hTold : LeakTold s)
    (hMoves : LeakMoves s event result served (s.happen (.turn .leak))) :
    Strides .leak s (.turn .leak) (s.happen (.turn .leak)) := by
  have hScene := hMoves.scene
  have hState : (s.happen (.turn .leak)).leak.state = result.1 :=
    congrArg Worker.state hMoves.leak
  have hTakes : (Scene.mk s (.turn .leak)).takes .leak =
      (event.isTick || (s.leak.state.ticker.isNone && result.1.ticker.isSome)) := by
    simp [Scene.takes, hScene, Scene.seeds, Scene.after, hState]
  have hRests : (Scene.mk s (.turn .leak)).rests .leak =
      (event.isReply && result.1.ticker?.isSome) := by
    simp only [Scene.rests, Poller.source, Scene.reply?, hScene, Poller.ticker?, Scene.after,
      hState]
    cases event <;> rfl
  have hAwake : event = .tick -> s.isCancelled = false := by
    rintro rfl
    cases hMoves.serves with
    | tick hFree hTicker hCancelled hDue => exact hCancelled
  have hStride := Leak.Watch.move_stride hMoves.move
    (fun hPhase => (Leak.Watch.expects_waiting hOrder.leak.expects hPhase).2) hAwake
  rw [hTold (Leak.Watch.move_begun hMoves.move).1] at hStride
  unfold Strides
  rw [hTakes, hRests]
  show Stride _ _ _ s.leak.state.gait (s.happen (.turn .leak)).leak.state.gait _ _
  rw [hState]
  exact hStride

theorem leak_strides (hOrder : InOrder s) (hTold : LeakTold s) (h : Happening) :
    Strides .leak s h (s.happen h) := by
  generalize hNext : s.happen h = next
  have hHappens : LeakHappens s h next := hNext ▸ leak_happens hOrder h
  cases hHappens with
  | apart hApart => exact leak_strides_apart hNext hApart
  | start hFresh =>
      have hDormant := leak_unbegun hOrder hFresh
      have hState := start_leak_state hFresh
      apply strides_still
      · show s.start.2.leak.state.gait = s.leak.state.gait
        have hBefore : s.leak.state.gait = .unbegun := by rw [Leak.Watch.gait, hDormant]
        rw [hState, hBefore]
        rfl
      · have hNone : s.start.2.leak.state.ticker = none := by
          rw [hState]
          rfl
        show (s.leak.state.ticker.isNone && s.start.2.leak.state.ticker.isSome) = false
        rw [hNone, Option.isSome_none, Bool.and_false]
      · rfl
  | move hMoves =>
      subst hNext
      exact leak_strides_move hOrder hTold hMoves
  | join hCancelled hOver =>
      apply strides_still
      · rfl
      · show (s.leak.state.ticker.isNone && (s.happen .join).leak.state.ticker.isSome) = false
        rw [hNext]
        show (s.leak.state.ticker.isNone && s.leak.state.ticker.isSome) = false
        cases s.leak.state.ticker <;> rfl
      · rfl

theorem leakTold_happen (hOrder : InOrder s) (hTold : LeakTold s) (h : Happening) :
    LeakTold (s.happen h) := by
  have hConfig := config_happen s h
  have hHappens := leak_happens hOrder h
  generalize s.happen h = next at hConfig hHappens
  unfold LeakTold
  rw [hConfig]
  cases hHappens with
  | apart hApart =>
      rw [hApart.leak]
      exact hTold
  | start hFresh =>
      rw [start_leak_state hFresh]
      exact fun _ => rfl
  | move hMoves =>
      intro _
      rw [hMoves.leak, ← hTold (Leak.Watch.move_begun hMoves.move).1]
      exact Leak.Watch.move_period hMoves.move
  | join hCancelled hOver => exact hTold

/-!
## Strides of the temperature loop
-/

theorem temperature_strides_move {event : Temperature.Event}
    {result : Temperature.Sampler × List Effect} (hOrder : InOrder s)
    (hMoves : TemperatureMoves s event result (s.happen (.turn .temperature))) :
    Strides .temperature s (.turn .temperature) (s.happen (.turn .temperature)) := by
  have hScene := hMoves.scene
  have hTakes : (Scene.mk s (.turn .temperature)).takes .temperature = event.isTick := by
    simp [Scene.takes, hScene]
  have hRests : (Scene.mk s (.turn .temperature)).rests .temperature =
      (event.isReply && result.1.ticker?.isSome) := by
    simp only [Scene.rests, Poller.source, Scene.reply?, hScene, Poller.ticker?, Scene.after,
      hMoves.state]
    cases event <;> rfl
  have hAwake : event = .tick -> s.isCancelled = false := by
    rintro rfl
    rcases temperature_hands hScene with ⟨served, hServes, _⟩
    cases hServes with
    | tick hFree hTicker hWaiting hCancelled hEmpty hDue => exact hCancelled
  unfold Strides
  rw [hTakes, hRests]
  show Stride _ _ _ s.temperature.state.gait
    (s.happen (.turn .temperature)).temperature.state.gait _ _
  rw [hMoves.state]
  exact Temperature.Sampler.move_stride hMoves.move
    (fun hPhase => (Temperature.Sampler.expects_waiting hOrder.temperature.expects hPhase).2)
    hAwake

theorem temperature_strides (hOrder : InOrder s) (h : Happening) :
    Strides .temperature s h (s.happen h) := by
  generalize hNext : s.happen h = next
  have hHappens : TemperatureHappens s h next := hNext ▸ temperature_happens hOrder h
  cases hHappens with
  | apart hApart =>
      apply strides_still
      · show next.temperature.state.gait = s.temperature.state.gait
        rw [hApart.state]
      · simp [Scene.takes, hApart.event]
      · simp [Scene.rests, Poller.source, Scene.reply?, hApart.event]
  | start hFresh =>
      have hDormant := temperature_unbegun hOrder hFresh
      have hBefore : s.temperature.state.gait = .unbegun := by
        rw [Temperature.Sampler.gait, hDormant]
      show Stride s.config.temperaturePeriod _ _ s.temperature.state.gait
        s.start.2.temperature.state.gait [] []
      rw [hBefore, start_temperature_state hFresh, Temperature.Sampler.start_gait]
      cases hStart : Ticker.start? s.config.temperaturePeriod s.now with
      | none => exact .still _
      | some ticker => exact .made hStart
  | move hMoves =>
      subst hNext
      exact temperature_strides_move hOrder hMoves
  | join hCancelled hOver => exact strides_still rfl rfl rfl

end Strides

theorem strides_happen {s : Monitor} (hOrder : InOrder s) (hTold : LeakTold s) (loop : Poller)
    (h : Happening) : Strides loop s h (s.happen h) := by
  cases loop with
  | leak => exact leak_strides hOrder hTold h
  | temperature => exact temperature_strides hOrder h

end Monitor
end TubMonitor
