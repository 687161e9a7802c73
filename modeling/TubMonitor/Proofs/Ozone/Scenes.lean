import TubMonitor.Proofs.InOrder

/-!
# What happens to the ozone loop

All that can happen, as far as the ozone loop is concerned: it is left alone, begins,
makes a move or has its panel cleared once it is over.  The calls that are its own are
made by its moves and by nothing else.
-/

namespace TubMonitor
namespace Monitor

/-!
## Calls of its own
-/

def Call.isOzone : Call -> Bool
  | .sensors (.switch .ozone _) => true
  | .store .latestEntry => true
  | .store (.startEntry _ _) => true
  | .store (.stopEntry _) => true
  | .store (.setStatus _ _) => true
  | _ => false

def ozoneCalls (s : Monitor) : List (Nat × Call) :=
  s.calls.filter fun entry => entry.2.isOzone

theorem isOzone_of_ozone {c : Ozone.Controller} {call : Call} (h : c.call? = some call) :
    call.isOzone = true := by
  unfold Ozone.Controller.call? at h
  split at h <;> first | cases h | skip
  all_goals try rfl
  rcases Option.map_eq_some_iff.mp h with ⟨id, _, hCall⟩
  rw [← hCall]
  rfl

theorem isOzone_of_leak {w : Leak.Watch} {call : Call} (h : w.Expects (some call)) :
    call.isOzone = false := by
  cases h <;> rfl

theorem isOzone_of_temperature {sampler : Temperature.Sampler} {call : Call}
    (h : sampler.Expects (some call)) : call.isOzone = false := by
  cases h <;> rfl

theorem isOzone_of_isPumpCall {call : Call} (h : isPumpCall call = true) :
    call.isOzone = false := by
  cases call with
  | store request => cases h
  | sensors request =>
      cases request with
      | switch device on =>
          cases device with
          | pump => rfl
          | ozone => cases h
      | _ => rfl

theorem ozoneCalls_of_append {s next : Monitor} {made : List (Nat × Call)}
    (hCalls : next.calls = made ++ s.calls)
    (hMade : forall entry, entry ∈ made -> entry.2.isOzone = false) :
    next.ozoneCalls = s.ozoneCalls := by
  have hNone : made.filter (fun entry => entry.2.isOzone) = [] := by
    rw [List.filter_eq_nil_iff]
    intro entry hEntry
    simp [hMade entry hEntry]
  simp [ozoneCalls, hCalls, hNone]

/-!
## The inversion
-/

structure OzoneApart (s : Monitor) (h : Happening) (next : Monitor) : Prop where
  ozone : next.ozone = s.ozone
  now : s.now ≤ next.now
  calls : next.ozoneCalls = s.ozoneCalls
  event : (Scene.mk s h).ozoneEvent? = none

/-- The loop makes a move, and with it at most one call. -/
structure OzoneMoves (s : Monitor) (event : Ozone.Event)
    (result : Ozone.Controller × List Effect) (served next : Monitor) : Prop where
  scene : (Scene.mk s (.turn .ozone)).ozoneEvent? = some event
  serves : OzoneServes s event served
  move : Ozone.Controller.Move s.now s.ozone.state event result
  ozone : next.ozone = ⟨result.1, result.1.call?.map s.placed⟩
  now : next.now = s.now
  calls : next.ozoneCalls = result.1.call?.toList.map (s.now, ·) ++ s.ozoneCalls
  hand : next = served.handOzone event

inductive OzoneHappens (s : Monitor) : Happening -> Monitor -> Prop where
  | apart {h : Happening} {next : Monitor} (hApart : OzoneApart s h next) :
      OzoneHappens s h next
  | start (hFresh : s.isFresh = true) : OzoneHappens s .start s.start.2
  | move {event : Ozone.Event} {result : Ozone.Controller × List Effect}
      {served next : Monitor} (hMoves : OzoneMoves s event result served next) :
      OzoneHappens s (.turn .ozone) next
  | join (hCancelled : s.isCancelled = true) (hOver : s.isOver = true) :
      OzoneHappens s .join s.join

theorem handLeak_apart {s served : Monitor} {event : Leak.Event} (hOrder : InOrder s)
    (hServes : LeakServes s event served) :
    OzoneApart s (.turn .leak) (served.handLeak event) := by
  have hMove := leak_move hOrder hServes
  rcases leakServes_eq hServes with ⟨_, rfl⟩
  constructor
  · rw [handLeak_ozone]
  · simp
  · rcases Leak.Watch.move_asks hMove with ⟨call?, hExpects, hMade⟩
    apply ozoneCalls_of_append (by rw [handLeak_calls, hMade])
    intro entry hEntry
    cases call? with
    | none => simp at hEntry
    | some call =>
        simp only [Option.toList_some, List.reverse_singleton, List.map_cons, List.map_nil,
          List.mem_singleton] at hEntry
        rw [hEntry]
        exact isOzone_of_leak hExpects
  · rfl

theorem handTemperature_apart {s served : Monitor} {event : Temperature.Event}
    (hOrder : InOrder s) (hServes : TemperatureServes s event served) :
    OzoneApart s (.turn .temperature) (served.handTemperature event) := by
  have hMove := temperature_move hOrder hServes
  rcases temperatureServes_eq hServes with ⟨_, _, rfl⟩
  constructor
  · rw [handTemperature_ozone]
  · simp
  · rcases Temperature.Sampler.move_asks hMove with ⟨call?, hExpects, hMade⟩
    apply ozoneCalls_of_append (by rw [handTemperature_calls, hMade])
    intro entry hEntry
    cases call? with
    | none => simp at hEntry
    | some call =>
        simp only [Option.toList_some, List.reverse_singleton, List.map_cons, List.map_nil,
          List.mem_singleton] at hEntry
        rw [hEntry]
        exact isOzone_of_temperature hExpects
  · rfl

theorem ozone_moves {s served : Monitor} {event : Ozone.Event} (hOrder : InOrder s)
    (hEvent : s.ozoneEvent? = some (event, served)) :
    OzoneMoves s event (s.ozone.state.step s.now event) served (served.handOzone event) := by
  have hServes := ozoneEvent_serves hEvent
  have hMove := ozone_move hOrder hServes
  have hMade := Ozone.Controller.move_calls hOrder.ozone.filed hMove
  have hPlaced := ozoneServes_placed hServes
  rcases ozoneServes_eq hServes with ⟨_, _, rfl⟩
  refine
    { scene := by simp [Scene.ozoneEvent?, hEvent]
      serves := hServes
      move := hMove
      ozone := ?_
      now := handOzone_now ..
      calls := ?_
      hand := rfl }
  · rw [handOzone_ozone]
    dsimp only
    rw [placedLast_of_calls hMade, hPlaced]
  · rw [ozoneCalls, handOzone_calls]
    dsimp only
    rw [hMade]
    cases hCall : (s.ozone.state.step s.now event).1.call? with
    | none => rfl
    | some call => simp [isOzone_of_ozone hCall, ozoneCalls]

theorem ozone_happens {s : Monitor} (hOrder : InOrder s) (h : Happening) :
    OzoneHappens s h (s.happen h) := by
  generalize hNext : s.happen h = next
  have hActs : Acts s h next := hNext ▸ acts s h
  cases hActs with
  | aside hAside =>
      rcases hAside.calls with ⟨made, hCalls, hMade⟩
      have hSame := ozoneCalls_of_append hCalls
        (fun entry hEntry => isOzone_of_isPumpCall (hMade entry hEntry))
      exact .apart ⟨hAside.ozone, hAside.now, hSame, hAside.ozoneEvent⟩
  | ozone hEvent => exact .move (ozone_moves hOrder hEvent)
  | leak hEvent => exact .apart (handLeak_apart hOrder (leakEvent_serves hEvent))
  | temperature hEvent =>
      exact .apart (handTemperature_apart hOrder (temperatureEvent_serves hEvent))
  | start hFresh => exact .start hFresh
  | cancel =>
      exact .apart ⟨cancel_ozone s, Nat.le_of_eq (cancel_now s).symm,
        by rw [ozoneCalls, cancel_calls, ozoneCalls], rfl⟩
  | join hCancelled hOver => exact .join hCancelled hOver

end Monitor
end TubMonitor
