import TubMonitor.Proofs.Course
import TubMonitor.Proofs.Effects
import TubMonitor.Proofs.Replies

/-!
# What a turn does

Each turn, and each of the other happenings, as one change of the state.  The closed
forms say everything a change consists of; the frames say only which parts it may
touch, which is what most invariants need to know of the parts they do not speak of.
-/

namespace TubMonitor
namespace Monitor

/-!
## Carrying out effects
-/

def placed (s : Monitor) (call : Call) : Pending :=
  { call, due := s.now + s.outside.conditions.delay call.kind }

/-- The call under way after a list of effects: the last one that was made. -/
def placedLast (s : Monitor) (effects : List Effect) : Option Pending :=
  (callsOf effects).getLast?.map s.placed

def acknowledgedNow (s : Monitor) (tickets : List Nat) : List Result :=
  tickets.map fun ticket => ⟨ticket, s.now, .ok ()⟩

def stoppedNow (s : Monitor) (tickets : List Nat) : List Result :=
  tickets.map fun ticket => ⟨ticket, s.now, .error .monitorStopped⟩

/-- What a list of effects leaves behind, apart from the call under way. -/
def credit (s : Monitor) (source : Notice.Source) (effects : List Effect) : Monitor :=
  { s with
    calls := (callsOf effects).reverse.map (s.now, ·) ++ s.calls
    notices := (notesOf effects).foldl (fun d text => d.push ⟨source, text⟩) s.notices
    results := s.acknowledgedNow (ticketsOf effects).reverse ++ s.results }

theorem credit_place (s : Monitor) (source : Notice.Source) (call : Call)
    (rest : List Effect) :
    (s.place call).2.credit source rest = s.credit source (.call call :: rest) := by
  simp [place, credit, acknowledgedNow]

theorem credit_notify (s : Monitor) (source : Notice.Source) (text : String)
    (rest : List Effect) :
    ({ s with notices := s.notices.push ⟨source, text⟩ } : Monitor).credit source rest =
      s.credit source (.notify text :: rest) := rfl

theorem credit_conclude (s : Monitor) (source : Notice.Source) (ticket : Nat)
    (rest : List Effect) :
    (s.conclude ticket (.ok ())).credit source rest =
      s.credit source (.acknowledge ticket :: rest) := by
  simp [conclude, credit, acknowledgedNow]

theorem placedLast_call (s : Monitor) (call : Call) (rest : List Effect) :
    s.placedLast (.call call :: rest) =
      (s.placedLast rest).or (some (s.placed call)) := by
  simp only [placedLast, callsOf_call, List.getLast?_cons]
  cases (callsOf rest).getLast? <;> rfl

/-- Effects are credited one after the other, and the last call counts. -/
theorem foldl_carryOut (s : Monitor) (source : Notice.Source) (pending : Option Pending)
    (effects : List Effect) :
    effects.foldl (carryOut source) (pending, s) =
      ((s.placedLast effects).or pending, s.credit source effects) := by
  induction effects generalizing s pending with
  | nil => rfl
  | cons effect rest ih =>
      rw [List.foldl_cons]
      cases effect with
      | call request =>
          show rest.foldl (carryOut source) (some (s.placed request), (s.place request).2) = _
          rw [ih, credit_place, placedLast_call, Option.or_assoc]
          rfl
      | notify text =>
          show rest.foldl (carryOut source)
            (pending, { s with notices := s.notices.push ⟨source, text⟩ }) = _
          rw [ih, credit_notify]
          rfl
      | acknowledge ticket =>
          show rest.foldl (carryOut source) (pending, s.conclude ticket (.ok ())) = _
          rw [ih, credit_conclude]
          rfl

theorem carryOutAll_eq (s : Monitor) (source : Notice.Source) (effects : List Effect) :
    s.carryOutAll source effects = (s.placedLast effects, s.credit source effects) := by
  simp [carryOutAll, foldl_carryOut]

theorem stopped_eq {α : Type} (s : Monitor) (letters : List (Letter α)) :
    s.stopped letters =
      { s with results := s.stoppedNow (letters.map Letter.ticket).reverse ++ s.results } := by
  unfold stopped
  induction letters generalizing s with
  | nil => rfl
  | cons letter rest ih =>
      rw [List.foldl_cons, ih]
      simp [conclude, stoppedNow]

/-!
## Handing an event to a loop
-/

theorem handOzone_eq (s : Monitor) (event : Ozone.Event) :
    s.handOzone event =
      let result := s.ozone.state.step s.now event
      let credited :=
        { s.credit .ozone result.2 with
          ozone := ⟨result.1, s.placedLast result.2⟩ }
      if result.1.hasEnded then
        { credited with
          ozoneBox := .closed
          results :=
            s.stoppedNow (s.ozoneBox.pending.map Letter.ticket).reverse ++ credited.results }
      else
        credited := by
  simp only [handOzone, carryOutAll_eq, closeOzoneBox, stopped_eq]
  rfl

theorem handLeak_eq (s : Monitor) (event : Leak.Event) :
    s.handLeak event =
      let result := s.leak.state.step s.now event
      { s.credit .leak result.2 with leak := ⟨result.1, s.placedLast result.2⟩ } := by
  simp only [handLeak, carryOutAll_eq]

theorem handTemperature_eq (s : Monitor) (event : Temperature.Event) :
    s.handTemperature event =
      let result := s.temperature.state.step s.now event
      let credited :=
        { s.credit .temperature result.2 with
          temperature := ⟨result.1, s.placedLast result.2⟩ }
      if result.1.hasEnded then
        { credited with
          targetBox := .closed
          results :=
            s.stoppedNow (s.targetBox.pending.map Letter.ticket).reverse ++ credited.results }
      else
        credited := by
  simp only [handTemperature, carryOutAll_eq, closeTargetBox, stopped_eq]
  rfl

@[simp] theorem handOzone_ozone (s : Monitor) (event : Ozone.Event) :
    (s.handOzone event).ozone =
      ⟨(s.ozone.state.step s.now event).1, s.placedLast (s.ozone.state.step s.now event).2⟩ := by
  simp only [handOzone_eq]
  split <;> rfl

@[simp] theorem handOzone_calls (s : Monitor) (event : Ozone.Event) :
    (s.handOzone event).calls =
      (callsOf (s.ozone.state.step s.now event).2).reverse.map (s.now, ·) ++ s.calls := by
  simp only [handOzone_eq]
  split <;> rfl

@[simp] theorem handOzone_leak (s : Monitor) (event : Ozone.Event) :
    (s.handOzone event).leak = s.leak := by
  simp only [handOzone_eq]
  split <;> rfl

@[simp] theorem handOzone_temperature (s : Monitor) (event : Ozone.Event) :
    (s.handOzone event).temperature = s.temperature := by
  simp only [handOzone_eq]
  split <;> rfl

@[simp] theorem handOzone_targetBox (s : Monitor) (event : Ozone.Event) :
    (s.handOzone event).targetBox = s.targetBox := by
  simp only [handOzone_eq]
  split <;> rfl

theorem handOzone_ozoneBox (s : Monitor) (event : Ozone.Event) :
    (s.handOzone event).ozoneBox =
      if (s.ozone.state.step s.now event).1.hasEnded then .closed else s.ozoneBox := by
  simp only [handOzone_eq]
  split <;> rfl

theorem handOzone_results (s : Monitor) (event : Ozone.Event) :
    (s.handOzone event).results =
      (if (s.ozone.state.step s.now event).1.hasEnded then
        s.stoppedNow (s.ozoneBox.pending.map Letter.ticket).reverse
      else
        []) ++
        (s.acknowledgedNow (ticketsOf (s.ozone.state.step s.now event).2).reverse ++
          s.results) := by
  simp only [handOzone_eq]
  split <;> rfl

@[simp] theorem handOzone_now (s : Monitor) (event : Ozone.Event) :
    (s.handOzone event).now = s.now := by
  simp only [handOzone_eq]
  split <;> rfl

@[simp] theorem handOzone_outside (s : Monitor) (event : Ozone.Event) :
    (s.handOzone event).outside = s.outside := by
  simp only [handOzone_eq]
  split <;> rfl

@[simp] theorem handOzone_isStarted (s : Monitor) (event : Ozone.Event) :
    (s.handOzone event).isStarted = s.isStarted := by
  simp only [handOzone_eq]
  split <;> rfl

@[simp] theorem handOzone_isCancelled (s : Monitor) (event : Ozone.Event) :
    (s.handOzone event).isCancelled = s.isCancelled := by
  simp only [handOzone_eq]
  split <;> rfl

@[simp] theorem handOzone_config (s : Monitor) (event : Ozone.Event) :
    (s.handOzone event).config = s.config := by
  simp only [handOzone_eq]
  split <;> rfl

@[simp] theorem handOzone_console (s : Monitor) (event : Ozone.Event) :
    (s.handOzone event).console = s.console := by
  simp only [handOzone_eq]
  split <;> rfl

@[simp] theorem handOzone_nextTicket (s : Monitor) (event : Ozone.Event) :
    (s.handOzone event).nextTicket = s.nextTicket := by
  simp only [handOzone_eq]
  split <;> rfl

@[simp] theorem handOzone_sink (s : Monitor) (event : Ozone.Event) :
    (s.handOzone event).sink = s.sink := by
  simp only [handOzone_eq]
  split <;> rfl

@[simp] theorem handOzone_deliveryDue (s : Monitor) (event : Ozone.Event) :
    (s.handOzone event).deliveryDue = s.deliveryDue := by
  simp only [handOzone_eq]
  split <;> rfl

theorem handOzone_notices (s : Monitor) (event : Ozone.Event) :
    (s.handOzone event).notices =
      (notesOf (s.ozone.state.step s.now event).2).foldl
        (fun d text => d.push ⟨.ozone, text⟩) s.notices := by
  simp only [handOzone_eq]
  split <;> rfl

@[simp] theorem handLeak_leak (s : Monitor) (event : Leak.Event) :
    (s.handLeak event).leak =
      ⟨(s.leak.state.step s.now event).1, s.placedLast (s.leak.state.step s.now event).2⟩ := by
  simp only [handLeak_eq]

@[simp] theorem handLeak_calls (s : Monitor) (event : Leak.Event) :
    (s.handLeak event).calls =
      (callsOf (s.leak.state.step s.now event).2).reverse.map (s.now, ·) ++ s.calls := by
  simp only [handLeak_eq]
  rfl

@[simp] theorem handLeak_ozone (s : Monitor) (event : Leak.Event) :
    (s.handLeak event).ozone = s.ozone := by
  simp only [handLeak_eq]
  rfl

@[simp] theorem handLeak_temperature (s : Monitor) (event : Leak.Event) :
    (s.handLeak event).temperature = s.temperature := by
  simp only [handLeak_eq]
  rfl

@[simp] theorem handLeak_ozoneBox (s : Monitor) (event : Leak.Event) :
    (s.handLeak event).ozoneBox = s.ozoneBox := by
  simp only [handLeak_eq]
  rfl

@[simp] theorem handLeak_targetBox (s : Monitor) (event : Leak.Event) :
    (s.handLeak event).targetBox = s.targetBox := by
  simp only [handLeak_eq]
  rfl

theorem handLeak_results (s : Monitor) (event : Leak.Event) :
    (s.handLeak event).results =
      s.acknowledgedNow (ticketsOf (s.leak.state.step s.now event).2).reverse ++ s.results := by
  simp only [handLeak_eq]
  rfl

@[simp] theorem handLeak_now (s : Monitor) (event : Leak.Event) :
    (s.handLeak event).now = s.now := by
  simp only [handLeak_eq]
  rfl

@[simp] theorem handLeak_outside (s : Monitor) (event : Leak.Event) :
    (s.handLeak event).outside = s.outside := by
  simp only [handLeak_eq]
  rfl

@[simp] theorem handLeak_isStarted (s : Monitor) (event : Leak.Event) :
    (s.handLeak event).isStarted = s.isStarted := by
  simp only [handLeak_eq]
  rfl

@[simp] theorem handLeak_isCancelled (s : Monitor) (event : Leak.Event) :
    (s.handLeak event).isCancelled = s.isCancelled := by
  simp only [handLeak_eq]
  rfl

@[simp] theorem handLeak_config (s : Monitor) (event : Leak.Event) :
    (s.handLeak event).config = s.config := by
  simp only [handLeak_eq]
  rfl

@[simp] theorem handLeak_console (s : Monitor) (event : Leak.Event) :
    (s.handLeak event).console = s.console := by
  simp only [handLeak_eq]
  rfl

@[simp] theorem handLeak_nextTicket (s : Monitor) (event : Leak.Event) :
    (s.handLeak event).nextTicket = s.nextTicket := by
  simp only [handLeak_eq]
  rfl

@[simp] theorem handLeak_sink (s : Monitor) (event : Leak.Event) :
    (s.handLeak event).sink = s.sink := by
  simp only [handLeak_eq]
  rfl

@[simp] theorem handLeak_deliveryDue (s : Monitor) (event : Leak.Event) :
    (s.handLeak event).deliveryDue = s.deliveryDue := by
  simp only [handLeak_eq]
  rfl

theorem handLeak_notices (s : Monitor) (event : Leak.Event) :
    (s.handLeak event).notices =
      (notesOf (s.leak.state.step s.now event).2).foldl
        (fun d text => d.push ⟨.leak, text⟩) s.notices := by
  simp only [handLeak_eq]
  rfl

@[simp] theorem handTemperature_temperature (s : Monitor) (event : Temperature.Event) :
    (s.handTemperature event).temperature =
      ⟨(s.temperature.state.step s.now event).1,
        s.placedLast (s.temperature.state.step s.now event).2⟩ := by
  simp only [handTemperature_eq]
  split <;> rfl

@[simp] theorem handTemperature_calls (s : Monitor) (event : Temperature.Event) :
    (s.handTemperature event).calls =
      (callsOf (s.temperature.state.step s.now event).2).reverse.map (s.now, ·) ++ s.calls := by
  simp only [handTemperature_eq]
  split <;> rfl

@[simp] theorem handTemperature_ozone (s : Monitor) (event : Temperature.Event) :
    (s.handTemperature event).ozone = s.ozone := by
  simp only [handTemperature_eq]
  split <;> rfl

@[simp] theorem handTemperature_leak (s : Monitor) (event : Temperature.Event) :
    (s.handTemperature event).leak = s.leak := by
  simp only [handTemperature_eq]
  split <;> rfl

@[simp] theorem handTemperature_ozoneBox (s : Monitor) (event : Temperature.Event) :
    (s.handTemperature event).ozoneBox = s.ozoneBox := by
  simp only [handTemperature_eq]
  split <;> rfl

theorem handTemperature_targetBox (s : Monitor) (event : Temperature.Event) :
    (s.handTemperature event).targetBox =
      if (s.temperature.state.step s.now event).1.hasEnded then .closed else s.targetBox := by
  simp only [handTemperature_eq]
  split <;> rfl

theorem handTemperature_results (s : Monitor) (event : Temperature.Event) :
    (s.handTemperature event).results =
      (if (s.temperature.state.step s.now event).1.hasEnded then
        s.stoppedNow (s.targetBox.pending.map Letter.ticket).reverse
      else
        []) ++
        (s.acknowledgedNow (ticketsOf (s.temperature.state.step s.now event).2).reverse ++
          s.results) := by
  simp only [handTemperature_eq]
  split <;> rfl

@[simp] theorem handTemperature_now (s : Monitor) (event : Temperature.Event) :
    (s.handTemperature event).now = s.now := by
  simp only [handTemperature_eq]
  split <;> rfl

@[simp] theorem handTemperature_outside (s : Monitor) (event : Temperature.Event) :
    (s.handTemperature event).outside = s.outside := by
  simp only [handTemperature_eq]
  split <;> rfl

@[simp] theorem handTemperature_isStarted (s : Monitor) (event : Temperature.Event) :
    (s.handTemperature event).isStarted = s.isStarted := by
  simp only [handTemperature_eq]
  split <;> rfl

@[simp] theorem handTemperature_isCancelled (s : Monitor) (event : Temperature.Event) :
    (s.handTemperature event).isCancelled = s.isCancelled := by
  simp only [handTemperature_eq]
  split <;> rfl

@[simp] theorem handTemperature_config (s : Monitor) (event : Temperature.Event) :
    (s.handTemperature event).config = s.config := by
  simp only [handTemperature_eq]
  split <;> rfl

@[simp] theorem handTemperature_console (s : Monitor) (event : Temperature.Event) :
    (s.handTemperature event).console = s.console := by
  simp only [handTemperature_eq]
  split <;> rfl

@[simp] theorem handTemperature_nextTicket (s : Monitor) (event : Temperature.Event) :
    (s.handTemperature event).nextTicket = s.nextTicket := by
  simp only [handTemperature_eq]
  split <;> rfl

@[simp] theorem handTemperature_sink (s : Monitor) (event : Temperature.Event) :
    (s.handTemperature event).sink = s.sink := by
  simp only [handTemperature_eq]
  split <;> rfl

@[simp] theorem handTemperature_deliveryDue (s : Monitor) (event : Temperature.Event) :
    (s.handTemperature event).deliveryDue = s.deliveryDue := by
  simp only [handTemperature_eq]
  split <;> rfl

theorem handTemperature_notices (s : Monitor) (event : Temperature.Event) :
    (s.handTemperature event).notices =
      (notesOf (s.temperature.state.step s.now event).2).foldl
        (fun d text => d.push ⟨.temperature, text⟩) s.notices := by
  simp only [handTemperature_eq]
  split <;> rfl

/-!
## What is handed to a loop

A loop with a call under way serves the reply and nothing else; a loop that waits
serves what comes first in its own order.
-/

inductive OzoneServes (s : Monitor) : Ozone.Event -> Monitor -> Prop where
  | reply {pending : Pending} (hPending : s.ozone.pending = some pending)
      (hDue : pending.due ≤ s.now) :
      OzoneServes s (.reply (s.outside.answer s.now pending.call).1)
        { s with outside := (s.outside.answer s.now pending.call).2 }
  | cancel (hFree : s.ozone.pending = none) (hWaiting : s.ozone.state.isWaiting = true)
      (hCancelled : s.isCancelled = true) : OzoneServes s .cancel s
  | deadline {run : Ozone.Run} (hFree : s.ozone.pending = none)
      (hRun : s.ozone.state.active? = some run) (hCancelled : s.isCancelled = false)
      (hDue : run.deadline ≤ s.now) : OzoneServes s .deadline s
  | command {letter : Letter Ozone.Command} {box : Mailbox Ozone.Command}
      (hFree : s.ozone.pending = none) (hWaiting : s.ozone.state.isWaiting = true)
      (hCancelled : s.isCancelled = false)
      (hEarly : forall run, s.ozone.state.active? = some run -> s.now < run.deadline)
      (hTake : s.ozoneBox.take? = some (letter, box)) :
      OzoneServes s (.command letter.command letter.ticket) { s with ozoneBox := box }

theorem ozoneEvent_serves {s next : Monitor} {event : Ozone.Event}
    (h : s.ozoneEvent? = some (event, next)) : OzoneServes s event next := by
  unfold ozoneEvent? at h
  split at h
  · next pending hPending =>
      simp only [reply?, Option.map_eq_some_iff, Prod.exists] at h
      rcases h with ⟨reply, after, hReply, hEvent⟩
      split at hReply
      · next hDue =>
          cases hReply
          cases hEvent
          exact .reply hPending hDue
      · cases hReply
  · next hFree =>
      split at h
      · cases h
      · next hWaiting =>
          simp only [Bool.not_eq_true', Bool.not_eq_false] at hWaiting
          split at h
          · next hCancelled =>
              cases h
              exact .cancel hFree hWaiting hCancelled
          · next hCancelled =>
              simp only [Bool.not_eq_true] at hCancelled
              split at h
              · next hDue =>
                  cases h
                  rcases (Option.any_eq_true ..).mp hDue with ⟨run, hRun, hRunDue⟩
                  exact .deadline hFree hRun hCancelled (by simpa using hRunDue)
              · next hDue =>
                  simp only [Option.map_eq_some_iff, Prod.exists] at h
                  rcases h with ⟨letter, box, hTake, hEvent⟩
                  cases hEvent
                  refine .command hFree hWaiting hCancelled ?_ hTake
                  intro run hRun
                  simpa [hRun] using hDue

theorem ozoneServes_eq {s served : Monitor} {event : Ozone.Event}
    (h : OzoneServes s event served) :
    exists outside ozoneBox, served = { s with outside := outside, ozoneBox := ozoneBox } := by
  cases h <;> exact ⟨_, _, rfl⟩

theorem ozoneServes_placed {s served : Monitor} {event : Ozone.Event}
    (h : OzoneServes s event served) : served.placed = s.placed := by
  funext call
  cases h <;> simp [placed]

theorem ozoneServes_door {s served : Monitor} {event : Ozone.Event}
    (h : OzoneServes s event served) : served.ozoneBox.isOpen = s.ozoneBox.isOpen := by
  cases h with
  | command hFree hWaiting hCancelled hEarly hTake => exact Mailbox.isOpen_take hTake
  | _ => rfl

theorem ozoneServes_reply {s served : Monitor} {reply : Reply}
    (h : OzoneServes s (.reply reply) served) :
    exists pending, s.ozone.pending = some pending ∧ pending.due ≤ s.now ∧
      reply = (s.outside.answer s.now pending.call).1 ∧
      served = { s with outside := (s.outside.answer s.now pending.call).2 } := by
  generalize hEvent : Ozone.Event.reply reply = event at h
  cases h with
  | @reply pending hPending hDue =>
      cases hEvent
      exact ⟨pending, hPending, hDue, rfl, rfl⟩
  | _ => cases hEvent

theorem ozoneTurn_cases {s next : Monitor} (h : s.ozoneTurn? = some next) :
    exists event served,
      s.ozoneEvent? = some (event, served) ∧ next = served.handOzone event := by
  simp only [ozoneTurn?, Option.map_eq_some_iff, Prod.exists] at h
  rcases h with ⟨event, served, hEvent, hNext⟩
  exact ⟨event, served, hEvent, hNext.symm⟩

inductive LeakServes (s : Monitor) : Leak.Event -> Monitor -> Prop where
  | reply {pending : Pending} (hPending : s.leak.pending = some pending)
      (hDue : pending.due ≤ s.now) :
      LeakServes s (.reply (s.outside.answer s.now pending.call).1)
        { s with outside := (s.outside.answer s.now pending.call).2 }
  | cancel {ticker : Time.Ticker} (hFree : s.leak.pending = none)
      (hTicker : s.leak.state.ticker? = some ticker) (hCancelled : s.isCancelled = true) :
      LeakServes s .cancel s
  | tick {ticker : Time.Ticker} (hFree : s.leak.pending = none)
      (hTicker : s.leak.state.ticker? = some ticker) (hCancelled : s.isCancelled = false)
      (hDue : ticker.isDue s.now = true) : LeakServes s .tick s

theorem leakEvent_serves {s next : Monitor} {event : Leak.Event}
    (h : s.leakEvent? = some (event, next)) : LeakServes s event next := by
  unfold leakEvent? at h
  split at h
  · next pending hPending =>
      simp only [reply?, Option.map_eq_some_iff, Prod.exists] at h
      rcases h with ⟨reply, after, hReply, hEvent⟩
      split at hReply
      · next hDue =>
          cases hReply
          cases hEvent
          exact .reply hPending hDue
      · cases hReply
  · next hFree =>
      cases hTicker : s.leak.state.ticker? with
      | none => simp [hTicker] at h
      | some ticker =>
          simp only [hTicker, Option.isNone_some, Bool.false_eq_true, if_false] at h
          split at h
          · next hCancelled =>
              cases h
              exact .cancel hFree hTicker hCancelled
          · next hCancelled =>
              split at h
              · next hDue =>
                  cases h
                  exact .tick hFree hTicker (by simpa using hCancelled) hDue
              · cases h

theorem leakServes_eq {s served : Monitor} {event : Leak.Event}
    (h : LeakServes s event served) : exists outside, served = { s with outside := outside } := by
  cases h <;> exact ⟨_, rfl⟩

theorem leakServes_placed {s served : Monitor} {event : Leak.Event}
    (h : LeakServes s event served) : served.placed = s.placed := by
  funext call
  cases h <;> simp [placed]

theorem leakTurn_cases {s next : Monitor} (h : s.leakTurn? = some next) :
    exists event served,
      s.leakEvent? = some (event, served) ∧ next = served.handLeak event := by
  simp only [leakTurn?, Option.map_eq_some_iff, Prod.exists] at h
  rcases h with ⟨event, served, hEvent, hNext⟩
  exact ⟨event, served, hEvent, hNext.symm⟩

inductive TemperatureServes (s : Monitor) : Temperature.Event -> Monitor -> Prop where
  | reply {pending : Pending} (hPending : s.temperature.pending = some pending)
      (hDue : pending.due ≤ s.now) :
      TemperatureServes s (.reply (s.outside.answer s.now pending.call).1)
        { s with outside := (s.outside.answer s.now pending.call).2 }
  | cancel (hFree : s.temperature.pending = none)
      (hWaiting : s.temperature.state.isWaiting = true) (hCancelled : s.isCancelled = true) :
      TemperatureServes s .cancel s
  | command {letter : Letter Temperature.Command} {box : Mailbox Temperature.Command}
      (hFree : s.temperature.pending = none)
      (hWaiting : s.temperature.state.isWaiting = true) (hCancelled : s.isCancelled = false)
      (hTake : s.targetBox.take? = some (letter, box)) :
      TemperatureServes s (.command letter.command letter.ticket) { s with targetBox := box }
  | tick {ticker : Time.Ticker} (hFree : s.temperature.pending = none)
      (hTicker : s.temperature.state.ticker? = some ticker)
      (hWaiting : s.temperature.state.isWaiting = true) (hCancelled : s.isCancelled = false)
      (hEmpty : s.targetBox.slot = none) (hDue : ticker.isDue s.now = true) :
      TemperatureServes s .tick s

theorem temperatureEvent_serves {s next : Monitor} {event : Temperature.Event}
    (h : s.temperatureEvent? = some (event, next)) : TemperatureServes s event next := by
  unfold temperatureEvent? at h
  split at h
  · next pending hPending =>
      simp only [reply?, Option.map_eq_some_iff, Prod.exists] at h
      rcases h with ⟨reply, after, hReply, hEvent⟩
      split at hReply
      · next hDue =>
          cases hReply
          cases hEvent
          exact .reply hPending hDue
      · cases hReply
  · next hFree =>
      split at h
      · cases h
      · next hWaiting =>
          simp only [Bool.not_eq_true', Bool.not_eq_false] at hWaiting
          split at h
          · next hCancelled =>
              cases h
              exact .cancel hFree hWaiting hCancelled
          · next hCancelled =>
              simp only [Bool.not_eq_true] at hCancelled
              split at h
              · next letter box hTake =>
                  cases h
                  exact .command hFree hWaiting hCancelled hTake
              · next hNone =>
                  split at h
                  · next hDue =>
                      cases h
                      rcases (Option.any_eq_true ..).mp hDue with ⟨ticker, hTicker, hTickerDue⟩
                      have hEmpty : s.targetBox.slot = none := by
                        simpa [Mailbox.take?] using hNone
                      exact .tick hFree hTicker hWaiting hCancelled hEmpty hTickerDue
                  · cases h

theorem temperatureServes_eq {s served : Monitor} {event : Temperature.Event}
    (h : TemperatureServes s event served) :
    exists outside targetBox, served = { s with outside := outside, targetBox := targetBox } := by
  cases h <;> exact ⟨_, _, rfl⟩

theorem temperatureServes_placed {s served : Monitor} {event : Temperature.Event}
    (h : TemperatureServes s event served) : served.placed = s.placed := by
  funext call
  cases h <;> simp [placed]

theorem temperatureServes_door {s served : Monitor} {event : Temperature.Event}
    (h : TemperatureServes s event served) : served.targetBox.isOpen = s.targetBox.isOpen := by
  cases h with
  | command hFree hWaiting hCancelled hTake => exact Mailbox.isOpen_take hTake
  | _ => rfl

theorem temperatureTurn_cases {s next : Monitor} (h : s.temperatureTurn? = some next) :
    exists event served,
      s.temperatureEvent? = some (event, served) ∧ next = served.handTemperature event := by
  simp only [temperatureTurn?, Option.map_eq_some_iff, Prod.exists] at h
  rcases h with ⟨event, served, hEvent, hNext⟩
  exact ⟨event, served, hEvent, hNext.symm⟩

/-!
## The console

Whatever the console is told, it does at most one thing.
-/

inductive ConsoleServes (s : Monitor) (console : Worker Console.Session) :
    Console.Event -> Monitor -> Prop where
  | reply {pending : Pending} (hPending : console.pending = some pending)
      (hDue : pending.due ≤ s.now) :
      ConsoleServes s console (.reply (s.outside.answer s.now pending.call).1)
        { s with outside := (s.outside.answer s.now pending.call).2 }
  | next (hFree : console.pending = none) (hReady : console.state.phase = .ready)
      (hLines : console.state.lines ≠ []) : ConsoleServes s console (.next s.snapshot) s
  | ordered {success : String} {result : Result} (hFree : console.pending = none)
      (hOrdering : console.state.phase = .ordering success)
      (hResult : s.result? s.consoleTicket = some result) :
      ConsoleServes s console (.ordered result.outcome) s

theorem consoleEvent_serves {s next : Monitor} {console : Worker Console.Session}
    {event : Console.Event} (h : s.consoleEvent? console = some (event, next)) :
    ConsoleServes s console event next := by
  unfold consoleEvent? at h
  split at h
  · next pending hPending =>
      simp only [reply?, Option.map_eq_some_iff, Prod.exists] at h
      rcases h with ⟨reply, after, hReply, hEvent⟩
      split at hReply
      · next hDue =>
          cases hReply
          cases hEvent
          exact .reply hPending hDue
      · cases hReply
  · next hFree =>
      split at h
      · next hReady =>
          split at h
          · cases h
          · next hLines =>
              cases h
              exact .next hFree hReady (by simpa using hLines)
      · next success hOrdering =>
          simp only [Option.map_eq_some_iff] at h
          rcases h with ⟨result, hResult, hEvent⟩
          cases hEvent
          exact .ordered hFree hOrdering hResult
      · cases h

/-- The calls that the console makes are all about the pump. -/
def isPumpCall : Call -> Bool
  | .sensors .pumpStatus => true
  | .sensors (.switch .pump _) => true
  | _ => false

inductive ConsoleEffects : List Console.Effect -> Prop where
  | none : ConsoleEffects []
  | print (text : String) : ConsoleEffects [.print text]
  | call {call : Call} (hPump : isPumpCall call = true) : ConsoleEffects [.call call]
  | order (order : Console.Order) : ConsoleEffects [.order order]

theorem execute_effects (session : Console.Session) (snapshot : Snapshot)
    (command : Console.Command) : ConsoleEffects (session.execute snapshot command).2 := by
  cases command with
  | pump action =>
      cases action with
      | on =>
          simp only [Console.Session.execute]
          split
          · exact .print _
          · exact .call rfl
      | off => exact .call rfl
      | status => exact .call rfl
  | ozoneStart => exact .order _
  | ozoneStop => exact .order _
  | target => exact .order _
  | clearTarget => exact .order _
  | status => exact .print _
  | help => exact .print _
  | quit => exact .none

theorem session_effects (session : Console.Session) (event : Console.Event) :
    ConsoleEffects (session.step event).2 := by
  unfold Console.Session.step
  split
  · split
    · exact .none
    · unfold Console.Session.take
      split
      · exact .none
      · split
        · exact execute_effects ..
        · exact .print _
  · exact .print _
  · exact .print _
  · exact .print _
  · exact .none

theorem send_error {s next : Monitor} {order : Console.Order} {fault : Fault}
    (h : s.send order = (.error fault, next)) : next = s := by
  cases order with
  | ozone command =>
      simp only [send, sendOzone] at h
      repeat' split at h
      all_goals simp_all
  | target command =>
      simp only [send, sendTarget] at h
      repeat' split at h
      all_goals simp_all

inductive ConsoleActs (s : Monitor) (state : Console.Session) :
    List Console.Effect -> Monitor -> Prop where
  | none : ConsoleActs s state [] { s with console := some ⟨state, none⟩ }
  | print (text : String) :
      ConsoleActs s state [.print text]
        { s with console := some ⟨state, none⟩, printed := text :: s.printed }
  | call {call : Call} (hPump : isPumpCall call = true) :
      ConsoleActs s state [.call call]
        { s with
          console := some ⟨state, some (s.placed call)⟩
          calls := (s.now, call) :: s.calls }
  | sent {order : Console.Order} {ticket : Nat} {next : Monitor}
      (hSent : s.send order = (.ok ticket, next)) :
      ConsoleActs s state [.order order]
        { next with console := some ⟨state, none⟩, consoleTicket := ticket }
  | refused {order : Console.Order} {fault : Fault}
      (hRefused : s.send order = (.error fault, s)) :
      ConsoleActs s state [.order order]
        { s with
          console := some ⟨state, none⟩
          consoleTicket := s.nextTicket
          nextTicket := s.nextTicket + 1
          results := ⟨s.nextTicket, s.now, .error fault⟩ :: s.results }

theorem handConsole_acts (s : Monitor) (session : Console.Session) (event : Console.Event) :
    ConsoleActs s (session.step event).1 (session.step event).2
      (s.handConsole session event) := by
  have hEffects := session_effects session event
  unfold handConsole
  rcases hResult : session.step event with ⟨state, effects⟩
  rw [hResult] at hEffects
  cases hEffects with
  | none => exact .none
  | print text => exact .print text
  | call hPump => exact .call hPump
  | order order =>
      simp only [List.foldl_cons, List.foldl_nil, carryOutConsole]
      split
      · next ticket next hSent =>
          have hActs : ConsoleActs s state [.order order]
              { next with console := some ⟨state, none⟩, consoleTicket := ticket } :=
            .sent hSent
          exact hActs
      · next fault next hRefused =>
          have hSame := send_error hRefused
          subst hSame
          exact .refused hRefused

theorem consoleTurn_cases {s next : Monitor} (h : s.consoleTurn? = some next) :
    exists console event served state effects,
      s.console = some console ∧ s.consoleEvent? console = some (event, served) ∧
        console.state.step event = (state, effects) ∧
        ConsoleActs served state effects next := by
  unfold consoleTurn? at h
  split at h
  · cases h
  · next console hConsole =>
      simp only [Option.map_eq_some_iff, Prod.exists] at h
      rcases h with ⟨event, served, hEvent, hNext⟩
      subst hNext
      exact ⟨console, event, served, _, _, hConsole, hEvent, rfl,
        handConsole_acts served console.state event⟩

/-!
## The notification loop and the lines at the mailboxes
-/

inductive NoticesActs (s : Monitor) : Monitor -> Prop where
  /-- The sink is done with a message. -/
  | delivered {message : Notice.Message} (hDelivering : s.notices.delivering = some message)
      (hDue : s.deliveryDue ≤ s.now) :
      NoticesActs s
        { s.delivered message with notices := { s.notices with delivering := none } }
  | cancel (hFree : s.notices.delivering = none) (hCancelled : s.isCancelled = true) :
      NoticesActs s { s with notices := { s.notices with ended := true } }
  /-- The next message is handed to the sink. -/
  | handed {message : Notice.Message} {rest : List Notice.Message} {due : Nat}
      (hFree : s.notices.delivering = none) (hCancelled : s.isCancelled = false)
      (hSink : s.notices.hasSink = true) (hWaiting : s.notices.waiting = message :: rest) :
      NoticesActs s
        { s with
          notices := { s.notices with waiting := rest, delivering := some message }
          deliveryDue := due }
  /-- Without a sink the next message goes nowhere. -/
  | dropped {message : Notice.Message} {rest : List Notice.Message}
      (hFree : s.notices.delivering = none) (hCancelled : s.isCancelled = false)
      (hSink : s.notices.hasSink = false) (hWaiting : s.notices.waiting = message :: rest) :
      NoticesActs s { s with notices := { s.notices with waiting := rest } }

theorem noticesTurn_cases {s next : Monitor} (h : s.noticesTurn? = some next) :
    s.isStarted = true ∧ s.notices.ended = false ∧ NoticesActs s next := by
  unfold noticesTurn? at h
  split at h
  · cases h
  · next hOn =>
      simp only [Bool.or_eq_true, Bool.not_eq_true', not_or, Bool.not_eq_false,
        Bool.not_eq_true] at hOn
      refine ⟨hOn.1, hOn.2, ?_⟩
      split at h
      · next message hDelivering =>
          split at h
          · next hDue =>
              cases h
              simpa [handNotices, delivered, Notice.Dispatcher.step, hOn.2, hDelivering]
                using NoticesActs.delivered hDelivering hDue
          · cases h
      · next hFree =>
          split at h
          · next hCancelled =>
              cases h
              simpa [handNotices, Notice.Dispatcher.step, hOn.2, hFree]
                using NoticesActs.cancel hFree hCancelled
          · next hCancelled =>
              simp only [Bool.not_eq_true] at hCancelled
              cases hWaiting : s.notices.waiting with
              | nil => simp [hWaiting] at h
              | cons message rest =>
                  simp only [hWaiting, List.isEmpty_cons, Bool.false_eq_true, if_false,
                    Option.some.injEq] at h
                  subst h
                  cases hSink : s.notices.hasSink with
                  | true =>
                      simpa [handNotices, Notice.Dispatcher.step, hOn.2, hFree, hWaiting, hSink]
                        using NoticesActs.handed hFree hCancelled hSink hWaiting
                  | false =>
                      simpa [handNotices, Notice.Dispatcher.step, hOn.2, hFree, hWaiting, hSink]
                        using NoticesActs.dropped hFree hCancelled hSink hWaiting

theorem ozoneLineTurn_cases {s next : Monitor} (h : s.ozoneLineTurn? = some next) :
    exists box, s.ozoneBox.refill? = some box ∧ next = { s with ozoneBox := box } := by
  simp only [ozoneLineTurn?, Option.map_eq_some_iff] at h
  rcases h with ⟨box, hRefill, hNext⟩
  exact ⟨box, hRefill, hNext.symm⟩

theorem targetLineTurn_cases {s next : Monitor} (h : s.targetLineTurn? = some next) :
    exists box, s.targetBox.refill? = some box ∧ next = { s with targetBox := box } := by
  simp only [targetLineTurn?, Option.map_eq_some_iff] at h
  rcases h with ⟨box, hRefill, hNext⟩
  exact ⟨box, hRefill, hNext.symm⟩

end Monitor
end TubMonitor
