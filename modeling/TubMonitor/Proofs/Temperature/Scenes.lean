import TubMonitor.Proofs.Deeds
import TubMonitor.Proofs.InOrder

/-!
# What happens to the temperature loop

All that can happen, as far as the temperature loop is concerned: it is left alone, begins,
makes a move or has its panel cleared once it is over.  It says nothing when it begins.
-/

namespace TubMonitor
namespace Monitor

open Temperature (Sampler)

structure TemperatureApart (s : Monitor) (h : Happening) (next : Monitor) : Prop where
  state : next.temperature.state = s.temperature.state
  event : (Scene.mk s h).temperatureEvent? = none

structure TemperatureMoves (s : Monitor) (event : Temperature.Event)
    (result : Sampler × List Effect) (next : Monitor) : Prop where
  scene : (Scene.mk s (.turn .temperature)).temperatureEvent? = some event
  move : Sampler.Move s.now s.temperature.state event result
  state : next.temperature.state = result.1
  effects : (Scene.mk s (.turn .temperature)).effects .temperature = result.2

inductive TemperatureHappens (s : Monitor) : Happening -> Monitor -> Prop where
  | apart {h : Happening} {next : Monitor} (hApart : TemperatureApart s h next) :
      TemperatureHappens s h next
  | start (hFresh : s.isFresh = true) : TemperatureHappens s .start s.start.2
  | move {event : Temperature.Event} {result : Sampler × List Effect} {next : Monitor}
      (hMoves : TemperatureMoves s event result next) :
      TemperatureHappens s (.turn .temperature) next
  | join (hCancelled : s.isCancelled = true) (hOver : s.isOver = true) :
      TemperatureHappens s .join s.join

theorem temperature_effects_none {scene : Scene} (hEvent : scene.temperatureEvent? = none) :
    scene.effects .temperature = [] := by
  simp [Scene.effects, hEvent]

theorem temperature_moves {s served : Monitor} {event : Temperature.Event} (hOrder : InOrder s)
    (hEvent : s.temperatureEvent? = some (event, served)) :
    TemperatureMoves s event (s.temperature.state.step s.now event)
      (served.handTemperature event) := by
  have hServes := temperatureEvent_serves hEvent
  have hScene : (Scene.mk s (.turn .temperature)).temperatureEvent? = some event := by
    simp [Scene.temperatureEvent?, hEvent]
  have hEffects : (Scene.mk s (.turn .temperature)).effects .temperature =
      (s.temperature.state.step s.now event).2 := by
    simp [Scene.effects, hScene]
  refine ⟨hScene, temperature_move hOrder hServes, ?_, hEffects⟩
  rcases temperatureServes_eq hServes with ⟨_, _, rfl⟩
  rw [handTemperature_temperature]

theorem temperature_happens {s : Monitor} (hOrder : InOrder s) (h : Happening) :
    TemperatureHappens s h (s.happen h) := by
  generalize hNext : s.happen h = next
  have hActs : Acts s h next := hNext ▸ acts s h
  cases hActs with
  | aside hAside =>
      exact .apart ⟨congrArg Worker.state hAside.temperature, hAside.temperatureEvent⟩
  | temperature hEvent => exact .move (temperature_moves hOrder hEvent)
  | ozone hEvent =>
      rcases ozoneServes_eq (ozoneEvent_serves hEvent) with ⟨_, _, rfl⟩
      exact .apart ⟨by rw [handOzone_temperature], rfl⟩
  | leak hEvent =>
      rcases leakServes_eq (leakEvent_serves hEvent) with ⟨_, rfl⟩
      exact .apart ⟨by rw [handLeak_temperature], rfl⟩
  | start hFresh => exact .start hFresh
  | cancel => exact .apart ⟨by rw [cancel_temperature], rfl⟩
  | join hCancelled hOver => exact .join hCancelled hOver

end Monitor
end TubMonitor
