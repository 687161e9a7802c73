import TubMonitor.Proofs.InOrder
import TubMonitor.Proofs.Passing

/-!
# Winding down

Once the monitor has been cancelled each loop has a bounded number of turns left,
whatever its calls meet with: what is under way is seen through, and nothing else is
begun.
-/

namespace TubMonitor

open Monitor (Effect)

/-!
## The turns that the ozone loop has left
-/

namespace Ozone

def Event.begins : Event -> Bool
  | .command _ _ => true
  | .deadline => true
  | .reply _ => false
  | .cancel => false

/-- The turns after a run has been retired; what replaces it is begun first. -/
def Ending.turnsAfter : Ending -> Nat
  | .shutdown => 0
  | .manual _ => 1
  | .expired => 1
  | .replaced _ _ => 7

namespace Controller

def turnsLeft (c : Controller) : Nat :=
  match c.phase with
  | .dormant => 0
  | .loading => 3
  | .securing => 2
  | .waiting none => 1
  | .waiting (some _) => 4
  | .switchingOff _ ending => ending.turnsAfter + 3
  | .closing _ ending _ _ => ending.turnsAfter + 2
  | .labelling _ ending _ => ending.turnsAfter + 1
  | .recording _ => 7
  | .switchingOn _ _ => 6
  | .flagging _ _ _ => 5
  | .ended => 0

theorem turnsLeft_le (c : Controller) : c.turnsLeft ≤ 10 := by
  have hEnding (ending : Ending) : ending.turnsAfter ≤ 7 := by
    cases ending <;> simp [Ending.turnsAfter]
  rcases c with ⟨phase, shown⟩
  cases phase with
  | waiting active => cases active <;> simp [turnsLeft]
  | switchingOff run ending => exact Nat.add_le_add_right (hEnding ending) 3
  | closing run ending id stop => exact Nat.le_succ_of_le (Nat.add_le_add_right (hEnding ending) 2)
  | labelling run ending stop =>
      exact Nat.le_trans (Nat.add_le_add_right (hEnding ending) 1) (by decide)
  | _ => simp [turnsLeft]

theorem turnsLeft_retired (c : Controller) (now : Nat) (run : Run) (ending : Ending)
    (stop : Time.Instant) :
    (c.retired now run ending stop).1.turnsLeft = ending.turnsAfter := by
  cases ending <;> rfl

theorem move_winds {now : Nat} {c : Controller} {event : Event}
    {result : Controller × List Effect} (hOld : event.begins = false)
    (h : Move now c event result) : result.1.turnsLeft < c.turnsLeft := by
  cases h with
  | expired | spared | stopped | opened | replaced => cases hOld
  | unfiled outcome hPhase hRow =>
      rw [turnsLeft_retired]
      simp [turnsLeft, hPhase]
  | labelled outcome hPhase =>
      rw [turnsLeft_retired]
      simp [turnsLeft, hPhase]
  | _ => simp [turnsLeft, retire, began, beganWithout, Ending.turnsAfter, *]

theorem isWaiting_of_turnsLeft {c : Controller} (hFiled : c.Filed) (hFree : c.call? = none)
    (hLeft : 0 < c.turnsLeft) : c.isWaiting = true := by
  rcases c with ⟨phase, shown⟩
  cases phase with
  | waiting active => rfl
  | labelling run ending stop =>
      unfold Filed at hFiled
      simp [call?] at hFree
      simp [hFree] at hFiled
  | dormant => cases hLeft
  | ended => cases hLeft
  | _ => cases hFree

theorem hasEnded_of_turnsLeft {c : Controller} (hBegun : c.phase ≠ .dormant)
    (hLeft : c.turnsLeft = 0) : c.hasEnded = true := by
  rcases c with ⟨phase, shown⟩
  cases phase with
  | ended => rfl
  | dormant => exact absurd rfl hBegun
  | waiting active => cases active <;> cases hLeft
  | _ => cases hLeft

end Controller
end Ozone

/-!
## The turns that the leak loop has left
-/

namespace Leak

def Event.begins : Event -> Bool
  | .tick => true
  | .reply _ => false
  | .cancel => false

namespace Watch

def turnsLeft (w : Watch) : Nat :=
  match w.phase with
  | .dormant => 0
  | .loading => 6
  | .seeding => 5
  | .halting => 4
  | .recording => 2
  | .recalling => 3
  | .closing => 2
  | .waiting => 1
  | .polling => 5
  | .ended => 0
  | .failed => 0

theorem turnsLeft_le (w : Watch) : w.turnsLeft ≤ 6 := by
  unfold turnsLeft
  cases w.phase <;> decide

theorem settle_turnsLeft (w : Watch) (now : Nat) : (w.settle now).1.turnsLeft ≤ 1 := by
  simp only [settle]
  split
  · exact Nat.le_refl 1
  · split
    · exact Nat.le_refl 1
    · exact Nat.zero_le 1

theorem follow_turnsLeft (w : Watch) (now : Nat) : (w.follow now).1.turnsLeft ≤ 3 := by
  simp only [follow]
  split
  · show 2 ≤ 3
    decide
  · exact Nat.le_refl 3
  · exact Nat.le_trans (settle_turnsLeft w now) (by decide)

theorem observe_turnsLeft (w : Watch) (now : Nat) (present : Bool) :
    (w.observe now present).1.turnsLeft ≤ 4 := by
  simp only [observe]
  split
  · exact Nat.le_refl 4
  · exact Nat.le_succ_of_le (follow_turnsLeft _ now)

theorem move_winds {now : Nat} {w : Watch} {event : Event} {result : Watch × List Effect}
    (hOld : event.begins = false) (h : Move now w event result) :
    result.1.turnsLeft < w.turnsLeft := by
  cases h with
  | ticked => cases hOld
  | seeded outcome hPhase =>
      have hNext := observe_turnsLeft w now (outcome.toOption.getD false)
      simp only [turnsLeft, hPhase]
      exact Nat.lt_succ_of_le hNext
  | polled present hPhase =>
      have hNext := observe_turnsLeft w now present
      simp only [turnsLeft, hPhase]
      exact Nat.lt_succ_of_le hNext
  | halted outcome hPhase =>
      have hNext := follow_turnsLeft w now
      simp only [turnsLeft, hPhase]
      exact Nat.lt_succ_of_le hNext
  | recorded outcome hPhase =>
      have hNext := settle_turnsLeft (w.updated outcome) now
      simp only [turnsLeft, hPhase]
      exact Nat.lt_succ_of_le hNext
  | unmatched outcome hPhase =>
      have hNext := settle_turnsLeft w now
      simp only [turnsLeft, hPhase]
      exact Nat.lt_succ_of_le (Nat.le_succ_of_le hNext)
  | cleared record hPhase =>
      have hNext := settle_turnsLeft (w.updated (.ok record)) now
      simp only [turnsLeft, hPhase]
      exact Nat.lt_succ_of_le hNext
  | notCleared fault hPhase =>
      have hNext := settle_turnsLeft w now
      simp only [turnsLeft, hPhase]
      exact Nat.lt_succ_of_le hNext
  | _ => simp [turnsLeft, *]

theorem ticker?_of_turnsLeft {w : Watch} (hFree : w.Expects none) (hLeft : 0 < w.turnsLeft) :
    exists ticker, w.ticker? = some ticker := by
  cases hFree with
  | waiting hPhase hTicker => exact ⟨_, ticker?_eq_some.mpr ⟨hPhase, hTicker⟩⟩
  | _ => simp [turnsLeft, *] at hLeft

theorem hasEnded_of_turnsLeft {w : Watch} (hBegun : w.phase ≠ .dormant)
    (hLeft : w.turnsLeft = 0) : w.hasEnded = true := by
  unfold turnsLeft at hLeft
  unfold hasEnded
  cases hPhase : w.phase <;> simp_all

end Watch
end Leak

/-!
## The turns that the temperature loop has left
-/

namespace Temperature

def Event.begins : Event -> Bool
  | .command _ _ => true
  | .tick => true
  | .reply _ => false
  | .cancel => false

namespace Sampler

def turnsLeft (s : Sampler) : Nat :=
  match s.phase with
  | .dormant => 0
  | .waiting => 1
  | .reading => 3
  | .saving _ _ => 2
  | .ended => 0
  | .failed => 0

theorem turnsLeft_le (s : Sampler) : s.turnsLeft ≤ 3 := by
  unfold turnsLeft
  cases s.phase <;> simp

theorem move_winds {now : Nat} {s : Sampler} {event : Event} {result : Sampler × List Effect}
    (hOld : event.begins = false) (h : Move now s event result) :
    result.1.turnsLeft < s.turnsLeft := by
  cases h with
  | served | ticked => cases hOld
  | saved outcome hPhase hTicker => simp [turnsLeft, hPhase, record_begun]
  | _ => simp [turnsLeft, *]

theorem isWaiting_of_turnsLeft {s : Sampler} (hFree : s.Expects none) (hLeft : 0 < s.turnsLeft) :
    s.isWaiting = true := by
  cases hFree with
  | waiting hPhase hTicker => exact isWaiting_iff.mpr hPhase
  | _ => simp [turnsLeft, *] at hLeft

theorem hasEnded_of_turnsLeft {s : Sampler} (hBegun : s.phase ≠ .dormant)
    (hLeft : s.turnsLeft = 0) : s.hasEnded = true := by
  unfold turnsLeft at hLeft
  unfold hasEnded
  cases hPhase : s.phase <;> simp_all

end Sampler
end Temperature

/-!
## The turns that the notification loop has left
-/

namespace Notice
namespace Dispatcher

def turnsLeft (d : Dispatcher) : Nat :=
  if d.ended then 0 else if d.delivering.isSome then 2 else 1

theorem turnsLeft_le (d : Dispatcher) : d.turnsLeft ≤ 2 := by
  unfold turnsLeft
  split
  · decide
  · split <;> decide

theorem push_same (d : Dispatcher) (message : Message) :
    (d.push message).ended = d.ended ∧ (d.push message).delivering = d.delivering := by
  unfold push
  split
  · exact ⟨rfl, rfl⟩
  · exact ⟨rfl, rfl⟩

theorem pushAll_same (d : Dispatcher) (source : Source) (texts : List String) :
    (texts.foldl (fun d text => d.push ⟨source, text⟩) d).ended = d.ended ∧
      (texts.foldl (fun d text => d.push ⟨source, text⟩) d).delivering = d.delivering := by
  induction texts generalizing d with
  | nil => exact ⟨rfl, rfl⟩
  | cons text rest ih =>
      have hFirst := push_same d ⟨source, text⟩
      have hRest := ih (d.push ⟨source, text⟩)
      exact ⟨hRest.1.trans hFirst.1, hRest.2.trans hFirst.2⟩

end Dispatcher
end Notice

/-!
## All loops
-/

namespace Monitor

def turnsLeft (s : Monitor) : LoopName -> Nat
  | .ozone => s.ozone.state.turnsLeft
  | .leak => s.leak.state.turnsLeft
  | .temperature => s.temperature.state.turnsLeft
  | .notification => s.notices.turnsLeft

/-- When the call or the delivery that a loop has under way will be done. -/
def loopDue (s : Monitor) : LoopName -> Option Nat
  | .ozone => pendingDue s.ozone
  | .leak => pendingDue s.leak
  | .temperature => pendingDue s.temperature
  | .notification => s.noticeDue

/-- No call and no delivery takes longer. -/
def pace (s : Monitor) : Nat :=
  s.outside.conditions.longestDelay + s.sinkDelay

structure Winding (s : Monitor) : Prop where
  order : InOrder s
  isStarted : s.isStarted = true
  isCancelled : s.isCancelled = true

/-- A loop takes one of its last turns. -/
structure Winds (s : Monitor) (name : LoopName) (next : Monitor) : Prop where
  fewer : next.turnsLeft name < s.turnsLeft name
  ready : forall due, s.loopDue name = some due -> due ≤ s.now
  soon : forall due, next.loopDue name = some due -> due ≤ s.now + s.pace
  others : forall other, other ≠ name ->
    next.turnsLeft other = s.turnsLeft other ∧ next.loopDue other = s.loopDue other

theorem le_foldl_max {start due : Nat} {rest : List Nat} (h : due ∈ start :: rest) :
    due ≤ rest.foldl max start :=
  (List.max?_eq_some_iff.mp List.max?_cons').2 due h

theorem delay_le (c : Conditions) (kind : CallKind) : c.delay kind ≤ c.longestDelay := by
  have hMem : kind ∈ CallKind.all := by cases kind <;> decide
  exact le_foldl_max (List.mem_cons_of_mem 0 (List.mem_map_of_mem hMem))

theorem placedLast_due {s : Monitor} {effects : List Effect} {due : Nat}
    (h : (s.placedLast effects).map Pending.due = some due) : due ≤ s.now + s.pace := by
  rcases Option.map_eq_some_iff.mp h with ⟨pending, hPlaced, rfl⟩
  rcases Option.map_eq_some_iff.mp hPlaced with ⟨call, _, rfl⟩
  have hDelay := delay_le s.outside.conditions call.kind
  simp only [placed, pace]
  omega

theorem notification_same {s next : Monitor} {source : Notice.Source} {texts : List String}
    (hNotices : next.notices = texts.foldl (fun d text => d.push ⟨source, text⟩) s.notices)
    (hDue : next.deliveryDue = s.deliveryDue) :
    next.turnsLeft .notification = s.turnsLeft .notification ∧
      next.loopDue .notification = s.loopDue .notification := by
  have hSame := Notice.Dispatcher.pushAll_same s.notices source texts
  rw [← hNotices] at hSame
  constructor
  · simp only [turnsLeft, Notice.Dispatcher.turnsLeft, hSame.1, hSame.2]
  · simp only [loopDue, noticeDue, hSame.2, hDue]

/-!
## One turn of a loop
-/

theorem ozoneServes_old {s served : Monitor} {event : Ozone.Event}
    (hServes : OzoneServes s event served) (hCancelled : s.isCancelled = true) :
    event.begins = false := by
  cases hServes <;> first | rfl | simp_all

theorem leakServes_old {s served : Monitor} {event : Leak.Event}
    (hServes : LeakServes s event served) (hCancelled : s.isCancelled = true) :
    event.begins = false := by
  cases hServes <;> first | rfl | simp_all

theorem temperatureServes_old {s served : Monitor} {event : Temperature.Event}
    (hServes : TemperatureServes s event served) (hCancelled : s.isCancelled = true) :
    event.begins = false := by
  cases hServes <;> first | rfl | simp_all

theorem ozone_winds {s next : Monitor} (hWinding : Winding s) (h : s.ozoneTurn? = some next) :
    Winds s .ozone next := by
  rcases ozoneTurn_cases h with ⟨event, served, hEvent, rfl⟩
  have hServes := ozoneEvent_serves hEvent
  have hOld := ozoneServes_old hServes hWinding.isCancelled
  have hMove := ozone_move hWinding.order hServes
  have hPace : served.pace = s.pace := by cases hServes <;> simp [pace, sinkDelay]
  constructor
  · have hFewer := Ozone.Controller.move_winds hOld hMove
    rcases ozoneServes_eq hServes with ⟨_, _, rfl⟩
    simpa [turnsLeft] using hFewer
  · intro due hDue
    cases hServes with
    | reply hPending hReady =>
        simp only [loopDue, pendingDue, hPending, Option.map_some, Option.some.injEq] at hDue
        exact hDue ▸ hReady
    | _ => simp_all [loopDue, pendingDue]
  · intro due hDue
    simp only [loopDue, pendingDue, handOzone_ozone] at hDue
    have hSoon := placedLast_due hDue
    rw [hPace] at hSoon
    rcases ozoneServes_eq hServes with ⟨_, _, rfl⟩
    exact hSoon
  · intro other hOther
    rcases ozoneServes_eq hServes with ⟨_, _, rfl⟩
    cases other with
    | ozone => exact absurd rfl hOther
    | leak => simp [turnsLeft, loopDue]
    | temperature => simp [turnsLeft, loopDue]
    | notification =>
        exact notification_same (handOzone_notices _ event) (handOzone_deliveryDue _ event)

theorem leak_winds {s next : Monitor} (hWinding : Winding s) (h : s.leakTurn? = some next) :
    Winds s .leak next := by
  rcases leakTurn_cases h with ⟨event, served, hEvent, rfl⟩
  have hServes := leakEvent_serves hEvent
  have hOld := leakServes_old hServes hWinding.isCancelled
  have hMove := leak_move hWinding.order hServes
  have hPace : served.pace = s.pace := by cases hServes <;> simp [pace, sinkDelay]
  constructor
  · have hFewer := Leak.Watch.move_winds hOld hMove
    rcases leakServes_eq hServes with ⟨_, rfl⟩
    simpa [turnsLeft] using hFewer
  · intro due hDue
    cases hServes with
    | reply hPending hReady =>
        simp only [loopDue, pendingDue, hPending, Option.map_some, Option.some.injEq] at hDue
        exact hDue ▸ hReady
    | _ => simp_all [loopDue, pendingDue]
  · intro due hDue
    simp only [loopDue, pendingDue, handLeak_leak] at hDue
    have hSoon := placedLast_due hDue
    rw [hPace] at hSoon
    rcases leakServes_eq hServes with ⟨_, rfl⟩
    exact hSoon
  · intro other hOther
    rcases leakServes_eq hServes with ⟨_, rfl⟩
    cases other with
    | leak => exact absurd rfl hOther
    | ozone => simp [turnsLeft, loopDue]
    | temperature => simp [turnsLeft, loopDue]
    | notification =>
        exact notification_same (handLeak_notices _ event) (handLeak_deliveryDue _ event)

theorem temperature_winds {s next : Monitor} (hWinding : Winding s)
    (h : s.temperatureTurn? = some next) : Winds s .temperature next := by
  rcases temperatureTurn_cases h with ⟨event, served, hEvent, rfl⟩
  have hServes := temperatureEvent_serves hEvent
  have hOld := temperatureServes_old hServes hWinding.isCancelled
  have hMove := temperature_move hWinding.order hServes
  have hPace : served.pace = s.pace := by cases hServes <;> simp [pace, sinkDelay]
  constructor
  · have hFewer := Temperature.Sampler.move_winds hOld hMove
    rcases temperatureServes_eq hServes with ⟨_, _, rfl⟩
    simpa [turnsLeft] using hFewer
  · intro due hDue
    cases hServes with
    | reply hPending hReady =>
        simp only [loopDue, pendingDue, hPending, Option.map_some, Option.some.injEq] at hDue
        exact hDue ▸ hReady
    | _ => simp_all [loopDue, pendingDue]
  · intro due hDue
    simp only [loopDue, pendingDue, handTemperature_temperature] at hDue
    have hSoon := placedLast_due hDue
    rw [hPace] at hSoon
    rcases temperatureServes_eq hServes with ⟨_, _, rfl⟩
    exact hSoon
  · intro other hOther
    rcases temperatureServes_eq hServes with ⟨_, _, rfl⟩
    cases other with
    | temperature => exact absurd rfl hOther
    | ozone => simp [turnsLeft, loopDue]
    | leak => simp [turnsLeft, loopDue]
    | notification =>
        exact notification_same (handTemperature_notices _ event)
          (handTemperature_deliveryDue _ event)

theorem notices_winds {s next : Monitor} (hWinding : Winding s)
    (h : s.noticesTurn? = some next) : Winds s .notification next := by
  rcases noticesTurn_cases h with ⟨_, hRunning, hActs⟩
  cases hActs with
  | delivered hDelivering hDue =>
      constructor
      · simp [turnsLeft, Notice.Dispatcher.turnsLeft, hRunning, hDelivering]
      · intro due hSame
        simp only [loopDue, noticeDue, hDelivering, Option.map_some, Option.some.injEq] at hSame
        exact hSame ▸ hDue
      · intro due hNext
        simp [loopDue, noticeDue] at hNext
      · intro other hOther
        cases other <;> first | exact ⟨rfl, rfl⟩ | exact absurd rfl hOther
  | cancel hFree hCancelled =>
      constructor
      · simp [turnsLeft, Notice.Dispatcher.turnsLeft, hRunning, hFree]
      · intro due hSame
        simp [loopDue, noticeDue, hFree] at hSame
      · intro due hNext
        simp [loopDue, noticeDue, hFree] at hNext
      · intro other hOther
        cases other <;> first | exact ⟨rfl, rfl⟩ | exact absurd rfl hOther
  | handed hFree hNot => simp [hWinding.isCancelled] at hNot
  | dropped hFree hNot => simp [hWinding.isCancelled] at hNot

theorem turn_winds {s next : Monitor} {name : LoopName} (hWinding : Winding s)
    (h : s.turn? name.turn = some next) : Winds s name next := by
  cases name with
  | ozone => exact ozone_winds hWinding h
  | leak => exact leak_winds hWinding h
  | temperature => exact temperature_winds hWinding h
  | notification => exact notices_winds hWinding h

end Monitor
end TubMonitor
