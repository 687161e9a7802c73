import TubMonitor.Proofs.Turns

/-!
# What can happen

One inversion for all happenings: whatever happens, the state either stays as it is or
changes in one of the ways listed here.  An invariant of all courses owes one case for
each of them.
-/

namespace TubMonitor
namespace Monitor

/-!
## Starting, cancelling and sending
-/

theorem start_fresh {s : Monitor} (hFresh : s.isFresh = true) :
    s.start.2 =
      let sampler :=
        Temperature.Sampler.start s.config.temperaturePeriod s.config.tolerance s.now
      let started :=
        { s with
          isStarted := true
          ozone := ⟨Ozone.Controller.start.1, some (s.placed (.store .latestEntry))⟩
          leak :=
            ⟨(Leak.Watch.start s.config.leakPeriod).1, some (s.placed (.store .latestRecord))⟩
          temperature := ⟨sampler, none⟩
          calls :=
            (s.now, .store .latestRecord) :: (s.now, .store .latestEntry) :: s.calls }
      if sampler.hasEnded then
        { started with
          targetBox := .closed
          results :=
            s.stoppedNow (s.targetBox.pending.map Letter.ticket).reverse ++ s.results }
      else
        started := by
  simp only [start, hFresh, if_true, launchTemperature, closeTargetBox, stopped_eq]
  rfl

section Start

variable {s : Monitor} (hFresh : s.isFresh = true)

include hFresh

theorem start_outside : s.start.2.outside = s.outside := by
  rw [start_fresh hFresh]
  dsimp only
  split <;> rfl

theorem start_now : s.start.2.now = s.now := by
  rw [start_fresh hFresh]
  dsimp only
  split <;> rfl

theorem start_calls :
    s.start.2.calls =
      (s.now, .store .latestRecord) :: (s.now, .store .latestEntry) :: s.calls := by
  rw [start_fresh hFresh]
  dsimp only
  split <;> rfl

theorem start_ozone_state : s.start.2.ozone.state = Ozone.Controller.start.1 := by
  rw [start_fresh hFresh]
  dsimp only
  split <;> rfl

theorem start_leak_state :
    s.start.2.leak.state = (Leak.Watch.start s.config.leakPeriod).1 := by
  rw [start_fresh hFresh]
  dsimp only
  split <;> rfl

theorem start_temperature_state :
    s.start.2.temperature.state =
      Temperature.Sampler.start s.config.temperaturePeriod s.config.tolerance s.now := by
  rw [start_fresh hFresh]
  dsimp only
  split <;> rfl

theorem start_isStarted : s.start.2.isStarted = true := by
  rw [start_fresh hFresh]
  dsimp only
  split <;> rfl

end Start

theorem start_stale {s : Monitor} (hStale : s.isFresh = false) :
    s.start = (.error .alreadyStarted, s) := by
  simp [start, hStale]

theorem cancel_fresh {s : Monitor} (hFresh : s.isFresh = true) :
    s.cancel =
      { s with
        isCancelled := true
        ozoneBox := .closed
        targetBox := .closed
        results :=
          s.stoppedNow (s.targetBox.pending.map Letter.ticket).reverse ++
            (s.stoppedNow (s.ozoneBox.pending.map Letter.ticket).reverse ++ s.results) } := by
  simp only [cancel, hFresh, if_true, closeOzoneBox, closeTargetBox, stopped_eq]
  rfl

theorem cancel_stale {s : Monitor} (hStale : s.isFresh = false) :
    s.cancel = { s with isCancelled := true } := by
  simp [cancel, hStale]

theorem cancel_eq (s : Monitor) :
    exists ozoneBox targetBox results,
      s.cancel =
        { s with
          isCancelled := true
          ozoneBox := ozoneBox
          targetBox := targetBox
          results := results } := by
  cases hFresh : s.isFresh with
  | true => exact ⟨_, _, _, cancel_fresh hFresh⟩
  | false => exact ⟨_, _, _, cancel_stale hFresh⟩

@[simp] theorem cancel_isCancelled (s : Monitor) : s.cancel.isCancelled = true := by
  rcases cancel_eq s with ⟨_, _, _, h⟩
  rw [h]

@[simp] theorem cancel_isStarted (s : Monitor) : s.cancel.isStarted = s.isStarted := by
  rcases cancel_eq s with ⟨_, _, _, h⟩
  rw [h]

@[simp] theorem cancel_ozone (s : Monitor) : s.cancel.ozone = s.ozone := by
  rcases cancel_eq s with ⟨_, _, _, h⟩
  rw [h]

@[simp] theorem cancel_leak (s : Monitor) : s.cancel.leak = s.leak := by
  rcases cancel_eq s with ⟨_, _, _, h⟩
  rw [h]

@[simp] theorem cancel_temperature (s : Monitor) : s.cancel.temperature = s.temperature := by
  rcases cancel_eq s with ⟨_, _, _, h⟩
  rw [h]

@[simp] theorem cancel_now (s : Monitor) : s.cancel.now = s.now := by
  rcases cancel_eq s with ⟨_, _, _, h⟩
  rw [h]

@[simp] theorem cancel_console (s : Monitor) : s.cancel.console = s.console := by
  rcases cancel_eq s with ⟨_, _, _, h⟩
  rw [h]

@[simp] theorem cancel_outside (s : Monitor) : s.cancel.outside = s.outside := by
  rcases cancel_eq s with ⟨_, _, _, h⟩
  rw [h]

@[simp] theorem cancel_calls (s : Monitor) : s.cancel.calls = s.calls := by
  rcases cancel_eq s with ⟨_, _, _, h⟩
  rw [h]

/-- A monitor that was started is over once each of its loops has ended. -/
theorem isOver_iff (s : Monitor) :
    s.isOver = true ↔
      (s.isStarted = true ->
        s.ozone.state.hasEnded = true ∧ s.leak.state.hasEnded = true ∧
          s.temperature.state.hasEnded = true ∧ s.notices.ended = true) := by
  unfold isOver running
  cases s.isStarted with
  | false => simp
  | true =>
      cases hOzone : s.ozone.state.hasEnded <;> cases hLeak : s.leak.state.hasEnded <;>
        cases hTemperature : s.temperature.state.hasEnded <;>
          cases hNotices : s.notices.ended <;>
            simp [loopNames, hasEnded, hOzone, hLeak, hTemperature, hNotices]

theorem sendOzone_cases (s : Monitor) (command : Ozone.Command) :
    (exists fault, command.check s.config.maxOzoneMinutes = .error fault ∧
        s.sendOzone command = (.error fault, s)) ∨
      (command.check s.config.maxOzoneMinutes = .ok () ∧ s.ozoneBox.isOpen = false ∧
        s.sendOzone command = (.error .monitorStopped, s)) ∨
      (command.check s.config.maxOzoneMinutes = .ok () ∧
        exists box, s.ozoneBox.send? ⟨command, s.nextTicket⟩ = some box ∧
          s.sendOzone command =
            (.ok s.nextTicket, { s with ozoneBox := box, nextTicket := s.nextTicket + 1 })) := by
  unfold sendOzone
  cases hCheck : command.check s.config.maxOzoneMinutes with
  | error fault => exact Or.inl ⟨fault, rfl, rfl⟩
  | ok =>
      right
      cases hSend : s.ozoneBox.send? ⟨command, s.nextTicket⟩ with
      | none =>
          left
          refine ⟨rfl, ?_, rfl⟩
          unfold Mailbox.send? at hSend
          split at hSend
          · split at hSend <;> cases hSend
          · next hShut => simpa using hShut
      | some box => exact Or.inr ⟨rfl, box, rfl, rfl⟩

theorem sendTarget_cases (s : Monitor) (command : Temperature.Command) :
    (exists fault, command.check = .error fault ∧
        s.sendTarget command = (.error fault, s)) ∨
      (command.check = .ok () ∧ s.targetBox.isOpen = false ∧
        s.sendTarget command = (.error .monitorStopped, s)) ∨
      (command.check = .ok () ∧
        exists box, s.targetBox.send? ⟨command, s.nextTicket⟩ = some box ∧
          s.sendTarget command =
            (.ok s.nextTicket, { s with targetBox := box, nextTicket := s.nextTicket + 1 })) := by
  unfold sendTarget
  cases hCheck : command.check with
  | error fault => exact Or.inl ⟨fault, rfl, rfl⟩
  | ok =>
      right
      cases hSend : s.targetBox.send? ⟨command, s.nextTicket⟩ with
      | none =>
          left
          refine ⟨rfl, ?_, rfl⟩
          unfold Mailbox.send? at hSend
          split at hSend
          · split at hSend <;> cases hSend
          · next hShut => simpa using hShut
      | some box => exact Or.inr ⟨rfl, box, rfl, rfl⟩

theorem send_ok {s next : Monitor} {order : Console.Order} {ticket : Nat}
    (h : s.send order = (.ok ticket, next)) :
    ticket = s.nextTicket ∧
      ((exists command box, order = .ozone command ∧
          command.check s.config.maxOzoneMinutes = .ok () ∧
          s.ozoneBox.send? ⟨command, s.nextTicket⟩ = some box ∧
          next = { s with ozoneBox := box, nextTicket := s.nextTicket + 1 }) ∨
        (exists command box, order = .target command ∧ command.check = .ok () ∧
          s.targetBox.send? ⟨command, s.nextTicket⟩ = some box ∧
          next = { s with targetBox := box, nextTicket := s.nextTicket + 1 })) := by
  cases order with
  | ozone command =>
      rw [send] at h
      rcases sendOzone_cases s command with
        ⟨_, _, hSend⟩ | ⟨_, _, hSend⟩ | ⟨hCheck, box, hBox, hSend⟩
      · rw [hSend] at h
        cases h
      · rw [hSend] at h
        cases h
      · rw [hSend] at h
        cases h
        exact ⟨rfl, Or.inl ⟨command, box, rfl, hCheck, hBox, rfl⟩⟩
  | target command =>
      rw [send] at h
      rcases sendTarget_cases s command with
        ⟨_, _, hSend⟩ | ⟨_, _, hSend⟩ | ⟨hCheck, box, hBox, hSend⟩
      · rw [hSend] at h
        cases h
      · rw [hSend] at h
        cases h
      · rw [hSend] at h
        cases h
        exact ⟨rfl, Or.inr ⟨command, box, rfl, hCheck, hBox, rfl⟩⟩

theorem send_outside (s : Monitor) (outside : Outside) (order : Console.Order) :
    ({ s with outside := outside } : Monitor).send order =
      ((s.send order).1, { (s.send order).2 with outside := outside }) := by
  cases order with
  | ozone command =>
      simp only [send, sendOzone]
      split
      · rfl
      · split <;> rfl
  | target command =>
      simp only [send, sendTarget]
      split
      · rfl
      · split <;> rfl

/-!
## All happenings
-/

inductive Happens (s : Monitor) : Happening -> Monitor -> Prop where
  /-- Nothing can be done just now. -/
  | idle {turn : Turn} (hIdle : s.turn? turn = none) : Happens s (.turn turn) s
  | ozone {event : Ozone.Event} {served : Monitor}
      (hEvent : s.ozoneEvent? = some (event, served)) :
      Happens s (.turn .ozone) (served.handOzone event)
  | leak {event : Leak.Event} {served : Monitor}
      (hEvent : s.leakEvent? = some (event, served)) :
      Happens s (.turn .leak) (served.handLeak event)
  | temperature {event : Temperature.Event} {served : Monitor}
      (hEvent : s.temperatureEvent? = some (event, served)) :
      Happens s (.turn .temperature) (served.handTemperature event)
  | notices {next : Monitor} (hStarted : s.isStarted = true)
      (hRunning : s.notices.ended = false) (hActs : NoticesActs s next) :
      Happens s (.turn .notices) next
  | ozoneLine {box : Mailbox Ozone.Command} (hRefill : s.ozoneBox.refill? = some box) :
      Happens s (.turn .ozoneLine) { s with ozoneBox := box }
  | targetLine {box : Mailbox Temperature.Command}
      (hRefill : s.targetBox.refill? = some box) :
      Happens s (.turn .targetLine) { s with targetBox := box }
  | console {console : Worker Console.Session} {event : Console.Event} {served next : Monitor}
      {state : Console.Session} {effects : List Console.Effect}
      (hConsole : s.console = some console)
      (hEvent : s.consoleEvent? console = some (event, served))
      (hStep : console.state.step event = (state, effects))
      (hActs : ConsoleActs served state effects next) :
      Happens s (.turn .console) next
  | start (hFresh : s.isFresh = true) : Happens s .start s.start.2
  | startRefused (hStale : s.isFresh = false) : Happens s .start s
  | cancel : Happens s .cancel s.cancel
  | joinEarly : Happens s .join s
  | join (hCancelled : s.isCancelled = true) (hOver : s.isOver = true) :
      Happens s .join s.join
  | sent {order : Console.Order} {ticket : Nat} {next : Monitor}
      (hSent : s.send order = (.ok ticket, next)) : Happens s (.send order) next
  | refused {order : Console.Order} {fault : Fault}
      (hRefused : s.send order = (.error fault, s)) : Happens s (.send order) s
  | converse (lines : List String) :
      Happens s (.converse lines)
        { s with console := some ⟨Console.Session.start lines, none⟩, printed := [] }
  | leave : Happens s .leave { s with console := none, printed := [] }
  | shift (outside : Outside) : Happens s (.shift outside) { s with outside }
  | wait (moment : Nat) : Happens s (.wait moment) { s with now := max s.now moment }

theorem turn_happens (s : Monitor) (turn : Turn) :
    Happens s (.turn turn) (s.happen (.turn turn)) := by
  show Happens s (.turn turn) ((s.turn? turn).getD s)
  cases hTurn : s.turn? turn with
  | none => exact .idle hTurn
  | some next =>
      rw [Option.getD_some]
      cases turn with
      | ozone =>
          rcases ozoneTurn_cases hTurn with ⟨event, served, hEvent, rfl⟩
          exact .ozone hEvent
      | leak =>
          rcases leakTurn_cases hTurn with ⟨event, served, hEvent, rfl⟩
          exact .leak hEvent
      | temperature =>
          rcases temperatureTurn_cases hTurn with ⟨event, served, hEvent, rfl⟩
          exact .temperature hEvent
      | notices =>
          rcases noticesTurn_cases hTurn with ⟨hStarted, hRunning, hActs⟩
          exact .notices hStarted hRunning hActs
      | ozoneLine =>
          rcases ozoneLineTurn_cases hTurn with ⟨box, hRefill, rfl⟩
          exact .ozoneLine hRefill
      | targetLine =>
          rcases targetLineTurn_cases hTurn with ⟨box, hRefill, rfl⟩
          exact .targetLine hRefill
      | console =>
          rcases consoleTurn_cases hTurn with ⟨_, _, _, _, _, hConsole, hEvent, hStep, hActs⟩
          exact .console hConsole hEvent hStep hActs

theorem happens (s : Monitor) (h : Happening) : Happens s h (s.happen h) := by
  cases h with
  | turn turn => exact turn_happens s turn
  | start =>
      cases hFresh : s.isFresh with
      | true => exact .start hFresh
      | false =>
          rw [happen, start_stale hFresh]
          exact .startRefused hFresh
  | cancel => exact .cancel
  | join =>
      simp only [happen]
      split
      · next hBoth =>
          rw [Bool.and_eq_true] at hBoth
          exact .join hBoth.1 hBoth.2
      · exact .joinEarly
  | send order =>
      simp only [happen]
      rcases hSend : s.send order with ⟨outcome, next⟩
      cases outcome with
      | error fault =>
          have hSame := send_error hSend
          subst hSame
          exact .refused hSend
      | ok ticket => exact .sent hSend
  | converse lines => exact .converse lines
  | leave => exact .leave
  | shift outside => exact .shift outside
  | wait moment => exact .wait moment

/-!
## The three loops and the rest

What a scene hands to a loop, if it is a turn of that loop.  Every happening is a turn
of one of the three loops, or one of the few things done to all of them at once, or
else leaves them alone.
-/

def Scene.ozoneEvent? (scene : Scene) : Option Ozone.Event :=
  match scene.happening with
  | .turn .ozone => scene.before.ozoneEvent?.map Prod.fst
  | _ => none

def Scene.leakEvent? (scene : Scene) : Option Leak.Event :=
  match scene.happening with
  | .turn .leak => scene.before.leakEvent?.map Prod.fst
  | _ => none

def Scene.temperatureEvent? (scene : Scene) : Option Temperature.Event :=
  match scene.happening with
  | .turn .temperature => scene.before.temperatureEvent?.map Prod.fst
  | _ => none

def ConsoleAsks (s : Monitor) (pending : Pending) : Prop :=
  exists console, s.console = some console ∧ console.pending = some pending

/-- What lies outside changes by itself or by the answer to a call of the console. -/
inductive OutsideAside (s : Monitor) (h : Happening) (outside : Outside) : Prop where
  | same (hSame : outside = s.outside) : OutsideAside s h outside
  | shift (hShift : h = .shift outside) : OutsideAside s h outside
  | answered {pending : Pending} (hAsks : s.ConsoleAsks pending)
      (hAnswer : outside = (s.outside.answer s.now pending.call).2) : OutsideAside s h outside

/-- The loops are left alone, and only the console makes calls. -/
structure Aside (s : Monitor) (h : Happening) (next : Monitor) : Prop where
  ozone : next.ozone = s.ozone
  leak : next.leak = s.leak
  temperature : next.temperature = s.temperature
  config : next.config = s.config
  isStarted : next.isStarted = s.isStarted
  isCancelled : next.isCancelled = s.isCancelled
  isJoined : next.isJoined = s.isJoined
  now : s.now ≤ next.now
  calls : exists made, next.calls = made ++ s.calls ∧
    forall entry, entry ∈ made -> isPumpCall entry.2 = true
  outside : OutsideAside s h next.outside
  asks : forall pending, next.ConsoleAsks pending ->
    s.ConsoleAsks pending ∨ isPumpCall pending.call = true
  ozoneEvent : (Scene.mk s h).ozoneEvent? = none
  leakEvent : (Scene.mk s h).leakEvent? = none
  temperatureEvent : (Scene.mk s h).temperatureEvent? = none

inductive Acts (s : Monitor) : Happening -> Monitor -> Prop where
  | aside {h : Happening} {next : Monitor} (hAside : Aside s h next) : Acts s h next
  | ozone {event : Ozone.Event} {served : Monitor}
      (hEvent : s.ozoneEvent? = some (event, served)) :
      Acts s (.turn .ozone) (served.handOzone event)
  | leak {event : Leak.Event} {served : Monitor}
      (hEvent : s.leakEvent? = some (event, served)) :
      Acts s (.turn .leak) (served.handLeak event)
  | temperature {event : Temperature.Event} {served : Monitor}
      (hEvent : s.temperatureEvent? = some (event, served)) :
      Acts s (.turn .temperature) (served.handTemperature event)
  | start (hFresh : s.isFresh = true) : Acts s .start s.start.2
  | cancel : Acts s .cancel s.cancel
  | join (hCancelled : s.isCancelled = true) (hOver : s.isOver = true) : Acts s .join s.join

theorem aside_of_eq {s next : Monitor} {h : Happening}
    (hSame : next.ozone = s.ozone ∧ next.leak = s.leak ∧ next.temperature = s.temperature ∧
      next.config = s.config ∧ next.isStarted = s.isStarted ∧
      next.isCancelled = s.isCancelled ∧ next.isJoined = s.isJoined ∧ next.calls = s.calls)
    (hNow : s.now ≤ next.now) (hOutside : OutsideAside s h next.outside)
    (hAsks : forall pending, next.ConsoleAsks pending -> s.ConsoleAsks pending)
    (hEvents : (Scene.mk s h).ozoneEvent? = none ∧ (Scene.mk s h).leakEvent? = none ∧
      (Scene.mk s h).temperatureEvent? = none) : Aside s h next := by
  rcases hSame with
    ⟨hOzone, hLeak, hTemperature, hConfig, hStarted, hCancelled, hJoined, hCalls⟩
  exact
    { ozone := hOzone
      leak := hLeak
      temperature := hTemperature
      config := hConfig
      isStarted := hStarted
      isCancelled := hCancelled
      isJoined := hJoined
      now := hNow
      calls := ⟨[], by simpa using hCalls, by simp⟩
      outside := hOutside
      asks := fun pending hPending => Or.inl (hAsks pending hPending)
      ozoneEvent := hEvents.1
      leakEvent := hEvents.2.1
      temperatureEvent := hEvents.2.2 }

theorem not_consoleAsks_none {s : Monitor} {pending : Pending} (h : s.console = none) :
    ¬ s.ConsoleAsks pending := by
  rintro ⟨console, hConsole, _⟩
  rw [h] at hConsole
  cases hConsole

theorem not_consoleAsks_free {s : Monitor} {state : Console.Session} {pending : Pending}
    (h : s.console = some ⟨state, none⟩) : ¬ s.ConsoleAsks pending := by
  rintro ⟨console, hConsole, hPending⟩
  rw [h] at hConsole
  cases hConsole
  cases hPending

theorem sent_aside {s next : Monitor} {order : Console.Order} {ticket : Nat}
    (hSent : s.send order = (.ok ticket, next)) : Aside s (.send order) next := by
  rcases (send_ok hSent).2 with ⟨_, _, _, _, _, rfl⟩ | ⟨_, _, _, _, _, rfl⟩
  all_goals
    exact aside_of_eq ⟨rfl, rfl, rfl, rfl, rfl, rfl, rfl, rfl⟩ (Nat.le_refl _) (.same rfl)
      (fun _ hAsks => hAsks) ⟨rfl, rfl, rfl⟩

theorem notices_aside {s next : Monitor} (hActs : NoticesActs s next) :
    Aside s (.turn .notices) next := by
  cases hActs
  all_goals
    exact aside_of_eq ⟨rfl, rfl, rfl, rfl, rfl, rfl, rfl, rfl⟩ (Nat.le_refl _) (.same rfl)
      (fun _ hAsks => hAsks) ⟨rfl, rfl, rfl⟩

theorem consoleEvent_outside {s served : Monitor} {console : Worker Console.Session}
    {event : Console.Event} (hConsole : s.console = some console)
    (hEvent : s.consoleEvent? console = some (event, served)) :
    exists outside, served = { s with outside := outside } ∧
      OutsideAside s (.turn .console) outside := by
  cases consoleEvent_serves hEvent with
  | @reply pending hPending hDue =>
      exact ⟨_, rfl, .answered ⟨console, hConsole, hPending⟩ rfl⟩
  | next hFree hReady hLines => exact ⟨_, rfl, .same rfl⟩
  | ordered hFree hOrdering hResult => exact ⟨_, rfl, .same rfl⟩

theorem console_aside {s served next : Monitor} {console : Worker Console.Session}
    {event : Console.Event} {state : Console.Session} {effects : List Console.Effect}
    (hConsole : s.console = some console)
    (hEvent : s.consoleEvent? console = some (event, served))
    (hActs : ConsoleActs served state effects next) :
    Aside s (.turn .console) next := by
  rcases consoleEvent_outside hConsole hEvent with ⟨outside, rfl, hOutside⟩
  cases hActs with
  | none =>
      exact aside_of_eq ⟨rfl, rfl, rfl, rfl, rfl, rfl, rfl, rfl⟩ (Nat.le_refl _) hOutside
        (fun _ hAsks => absurd hAsks (not_consoleAsks_free rfl)) ⟨rfl, rfl, rfl⟩
  | print text =>
      exact aside_of_eq ⟨rfl, rfl, rfl, rfl, rfl, rfl, rfl, rfl⟩ (Nat.le_refl _) hOutside
        (fun _ hAsks => absurd hAsks (not_consoleAsks_free rfl)) ⟨rfl, rfl, rfl⟩
  | @call call hPump =>
      refine
        ⟨rfl, rfl, rfl, rfl, rfl, rfl, rfl, Nat.le_refl _,
          ⟨[(s.now, call)], rfl, by simpa using hPump⟩, hOutside, ?_, rfl, rfl, rfl⟩
      rintro pending ⟨worker, hWorker, hPending⟩
      cases hWorker
      cases hPending
      exact Or.inr hPump
  | sent hSent =>
      rcases (send_ok hSent).2 with ⟨_, _, _, _, _, rfl⟩ | ⟨_, _, _, _, _, rfl⟩
      all_goals
        exact aside_of_eq ⟨rfl, rfl, rfl, rfl, rfl, rfl, rfl, rfl⟩ (Nat.le_refl _) hOutside
          (fun _ hAsks => absurd hAsks (not_consoleAsks_free rfl)) ⟨rfl, rfl, rfl⟩
  | refused hRefused =>
      exact aside_of_eq ⟨rfl, rfl, rfl, rfl, rfl, rfl, rfl, rfl⟩ (Nat.le_refl _) hOutside
        (fun _ hAsks => absurd hAsks (not_consoleAsks_free rfl)) ⟨rfl, rfl, rfl⟩

theorem idle_aside {s : Monitor} {turn : Turn} (hIdle : s.turn? turn = none) :
    Aside s (.turn turn) s := by
  refine aside_of_eq ⟨rfl, rfl, rfl, rfl, rfl, rfl, rfl, rfl⟩ (Nat.le_refl _) (.same rfl)
    (fun _ hAsks => hAsks) ⟨?_, ?_, ?_⟩
  all_goals
    cases turn <;>
      simp_all [Scene.ozoneEvent?, Scene.leakEvent?, Scene.temperatureEvent?, turn?,
        ozoneTurn?, leakTurn?, temperatureTurn?]

theorem acts (s : Monitor) (h : Happening) : Acts s h (s.happen h) := by
  generalize hNext : s.happen h = next
  have hHappens : Happens s h next := hNext ▸ happens s h
  cases hHappens with
  | idle hIdle => exact .aside (idle_aside hIdle)
  | ozone hEvent => exact .ozone hEvent
  | leak hEvent => exact .leak hEvent
  | temperature hEvent => exact .temperature hEvent
  | notices hStarted hRunning hActs => exact .aside (notices_aside hActs)
  | console hConsole hEvent hStep hActs =>
      exact .aside (console_aside hConsole hEvent hActs)
  | start hFresh => exact .start hFresh
  | cancel => exact .cancel
  | join hCancelled hOver => exact .join hCancelled hOver
  | sent hSent => exact .aside (sent_aside hSent)
  | wait moment =>
      exact .aside
        (aside_of_eq ⟨rfl, rfl, rfl, rfl, rfl, rfl, rfl, rfl⟩ (Nat.le_max_left _ _) (.same rfl)
          (fun _ hAsks => hAsks) ⟨rfl, rfl, rfl⟩)
  | shift outside =>
      exact .aside
        (aside_of_eq ⟨rfl, rfl, rfl, rfl, rfl, rfl, rfl, rfl⟩ (Nat.le_refl _) (.shift rfl)
          (fun _ hAsks => hAsks) ⟨rfl, rfl, rfl⟩)
  | converse lines =>
      exact .aside
        (aside_of_eq ⟨rfl, rfl, rfl, rfl, rfl, rfl, rfl, rfl⟩ (Nat.le_refl _) (.same rfl)
          (fun _ hAsks => absurd hAsks (not_consoleAsks_free rfl)) ⟨rfl, rfl, rfl⟩)
  | leave =>
      exact .aside
        (aside_of_eq ⟨rfl, rfl, rfl, rfl, rfl, rfl, rfl, rfl⟩ (Nat.le_refl _) (.same rfl)
          (fun _ hAsks => absurd hAsks (not_consoleAsks_none rfl)) ⟨rfl, rfl, rfl⟩)
  | ozoneLine _ | targetLine _ | startRefused _ | joinEarly | refused _ =>
      exact .aside
        (aside_of_eq ⟨rfl, rfl, rfl, rfl, rfl, rfl, rfl, rfl⟩ (Nat.le_refl _) (.same rfl)
          (fun _ hAsks => hAsks) ⟨rfl, rfl, rfl⟩)

theorem config_happen (s : Monitor) (h : Happening) : (s.happen h).config = s.config := by
  have hActs := acts s h
  generalize hNext : s.happen h = next at hActs
  cases hActs with
  | aside hAside => exact hAside.config
  | ozone hEvent =>
      rcases ozoneServes_eq (ozoneEvent_serves hEvent) with ⟨_, _, rfl⟩
      rw [handOzone_config]
  | leak hEvent =>
      rcases leakServes_eq (leakEvent_serves hEvent) with ⟨_, rfl⟩
      rw [handLeak_config]
  | temperature hEvent =>
      rcases temperatureServes_eq (temperatureEvent_serves hEvent) with ⟨_, _, rfl⟩
      rw [handTemperature_config]
  | start hFresh =>
      rw [start_fresh hFresh]
      dsimp only
      split <;> rfl
  | cancel =>
      rcases cancel_eq s with ⟨_, _, _, hCancel⟩
      rw [hCancel]
  | join hCancelled hOver => rfl

theorem config_after (s : Monitor) (hs : List Happening) : (s.after hs).config = s.config :=
  after_invariant (fun next => next.config = s.config) rfl
    (fun before h hBefore => (config_happen before h).trans hBefore) hs

/-!
## Time and beginnings
-/

theorem now_happen (s : Monitor) (h : Happening) : s.now ≤ (s.happen h).now := by
  have hActs := acts s h
  generalize hNext : s.happen h = next at hActs
  cases hActs with
  | aside hAside => exact hAside.now
  | ozone hEvent =>
      rcases ozoneServes_eq (ozoneEvent_serves hEvent) with ⟨_, _, rfl⟩
      simp
  | leak hEvent =>
      rcases leakServes_eq (leakEvent_serves hEvent) with ⟨_, rfl⟩
      simp
  | temperature hEvent =>
      rcases temperatureServes_eq (temperatureEvent_serves hEvent) with ⟨_, _, rfl⟩
      simp
  | start hFresh =>
      rw [start_fresh hFresh]
      dsimp only
      split <;> simp
  | cancel => simp
  | join hCancelled hOver => exact Nat.le_refl _

theorem now_after (s : Monitor) (hs : List Happening) : s.now ≤ (s.after hs).now := by
  induction hs generalizing s with
  | nil => exact Nat.le_refl _
  | cons h rest ih => exact Nat.le_trans (now_happen s h) (ih (s.happen h))

/-- What has been started, or given up before that, is never as it was at first. -/
theorem stale_happen {s : Monitor} (hStale : s.isFresh = false) (h : Happening) :
    (s.happen h).isFresh = false := by
  have hActs := acts s h
  generalize s.happen h = next at hActs
  have hSame {next : Monitor} (hStarted : next.isStarted = s.isStarted)
      (hCancelled : next.isCancelled = s.isCancelled) : next.isFresh = false := by
    rw [isFresh, hStarted, hCancelled]
    exact hStale
  cases hActs with
  | aside hAside => exact hSame hAside.isStarted hAside.isCancelled
  | ozone hEvent =>
      rcases ozoneServes_eq (ozoneEvent_serves hEvent) with ⟨_, _, rfl⟩
      exact hSame (handOzone_isStarted ..) (handOzone_isCancelled ..)
  | leak hEvent =>
      rcases leakServes_eq (leakEvent_serves hEvent) with ⟨_, rfl⟩
      exact hSame (handLeak_isStarted ..) (handLeak_isCancelled ..)
  | temperature hEvent =>
      rcases temperatureServes_eq (temperatureEvent_serves hEvent) with ⟨_, _, rfl⟩
      exact hSame (handTemperature_isStarted ..) (handTemperature_isCancelled ..)
  | start hFresh => cases hFresh.symm.trans hStale
  | cancel => simp [isFresh]
  | join hCancelled hOver => exact hStale

end Monitor
end TubMonitor
