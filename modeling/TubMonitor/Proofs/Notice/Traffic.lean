import TubMonitor.Proofs.Deeds

/-!
# The traffic of messages

What befalls the queue of the notification loop in any course of events: the loops and
any number of other producers push messages, the loop takes them and hands them to the
sink, and the sink takes its time and fails as it likes.  A run keeps, beside the monitor,
what has been offered to the queue and what has been handed to the sink.
-/

namespace TubMonitor

/-!
## Offers
-/

namespace Notice

structure Offer where
  found : Dispatcher
  message : Message
deriving DecidableEq

namespace Offer

def left (offer : Offer) : Dispatcher :=
  offer.found.push offer.message

def isAccepted (offer : Offer) : Bool :=
  decide (offer.left.waiting = offer.found.waiting ++ [offer.message])

end Offer

def accepted (offers : List Offer) : List Message :=
  (offers.filter Offer.isAccepted).map Offer.message

namespace Dispatcher

/-- Messages that are pushed one after the other, each with what the ones before it left. -/
def offers : Dispatcher -> List Message -> List Offer
  | _, [] => []
  | d, message :: rest => ⟨d, message⟩ :: (d.push message).offers rest

def pushAll (d : Dispatcher) (messages : List Message) : Dispatcher :=
  messages.foldl push d

theorem push_open {d : Dispatcher} (h : d.accepts = true) (message : Message) :
    d.push message = { d with waiting := d.waiting ++ [message] } := by
  rw [push, if_pos h]

theorem push_shut {d : Dispatcher} (h : d.accepts = false) (message : Message) :
    d.push message = d := by
  rw [push, h, if_neg Bool.false_ne_true]

theorem accepts_iff (d : Dispatcher) :
    d.accepts = true ↔ d.ended = false ∧ d.waiting.length < capacity := by
  simp [accepts]

end Dispatcher

theorem isAccepted_eq (offer : Offer) : offer.isAccepted = offer.found.accepts := by
  unfold Offer.isAccepted Offer.left
  cases hAccepts : offer.found.accepts with
  | true => simp [Dispatcher.push_open hAccepts]
  | false => simp [Dispatcher.push_shut hAccepts]

theorem accepted_append (first second : List Offer) :
    accepted (first ++ second) = accepted first ++ accepted second := by
  simp [accepted]

theorem pushAll_eq (d : Dispatcher) (messages : List Message) :
    d.pushAll messages =
      { d with waiting := d.waiting ++ accepted (d.offers messages) } := by
  induction messages generalizing d with
  | nil => simp [Dispatcher.pushAll, Dispatcher.offers, accepted]
  | cons message rest ih =>
      have hRest : d.pushAll (message :: rest) = (d.push message).pushAll rest := rfl
      have hFirst : accepted (d.offers (message :: rest)) =
          accepted [⟨d, message⟩] ++ accepted ((d.push message).offers rest) :=
        accepted_append [_] _
      rw [hRest, ih, hFirst]
      cases hAccepts : d.accepts with
      | true => simp [Dispatcher.push_open hAccepts, accepted, isAccepted_eq, hAccepts]
      | false => simp [Dispatcher.push_shut hAccepts, accepted, isAccepted_eq, hAccepts]

theorem length_pushAll_le {d : Dispatcher} (h : d.waiting.length ≤ capacity)
    (messages : List Message) : (d.pushAll messages).waiting.length ≤ capacity := by
  induction messages generalizing d with
  | nil => exact h
  | cons message rest ih => exact ih (Dispatcher.length_push_le h message)

end Notice

/-!
## Occurrences
-/

namespace Monitor

inductive Occurrence where
  | happening (happening : Happening)
  /-- Someone beside the loops has a message. -/
  | push (message : Notice.Message)
  /-- The sink will take another time over a message and fail for other messages. -/
  | sink (sink : Notice.Sink)

def occur (s : Monitor) : Occurrence -> Monitor
  | .happening h => s.happen h
  | .push message => { s with notices := s.notices.push message }
  | .sink sink => { s with sink := s.sink.map fun _ => sink }

def Scene.notes (scene : Scene) (source : Notice.Source) : List Notice.Message :=
  (notesOf (scene.effects source)).map (Notice.Message.mk source)

def pushes (s : Monitor) : Occurrence -> List Notice.Message
  | .happening h =>
      let scene : Scene := ⟨s, h⟩
      scene.notes .ozone ++ (scene.notes .leak ++ scene.notes .temperature)
  | .push message => [message]
  | .sink _ => []

end Monitor

open Monitor

structure Notice.Handing where
  subject : String
  message : Message
deriving DecidableEq

def Monitor.begun (s next : Monitor) : List Notice.Handing :=
  match s.notices.delivering, next.notices.delivering with
  | none, some message => [⟨next.notices.subject, message⟩]
  | _, _ => []

structure Traffic where
  monitor : Monitor
  /-- Earliest first, as are the ones below. -/
  offers : List Notice.Offer
  handed : List Notice.Handing

namespace Traffic

def opening (s : Monitor) : Traffic :=
  { monitor := s
    offers := []
    handed := [] }

def occur (t : Traffic) (o : Occurrence) : Traffic :=
  { monitor := t.monitor.occur o
    offers := t.offers ++ t.monitor.notices.offers (t.monitor.pushes o)
    handed := t.handed ++ t.monitor.begun (t.monitor.occur o) }

def after (t : Traffic) (os : List Occurrence) : Traffic :=
  os.foldl occur t

/-- What every occurrence preserves holds after every run. -/
theorem after_invariant (holds : Traffic -> Prop) {t : Traffic} (hBefore : holds t)
    (hOccur : forall before o, holds before -> holds (before.occur o))
    (os : List Occurrence) : holds (t.after os) := by
  induction os generalizing t with
  | nil => exact hBefore
  | cons o rest ih => exact ih (hOccur t o hBefore)

end Traffic

/-!
## What an occurrence does to the queue

The loop takes its turn, or the queue is left with whatever has been pushed.
-/

namespace Monitor

/-- The queue apart, an occurrence takes back neither the start nor a cancellation. -/
structure Onward (s next : Monitor) : Prop where
  isStarted : s.isStarted = true -> next.isStarted = true
  isCancelled : s.isCancelled = true -> next.isCancelled = true

inductive Stirs (s : Monitor) (o : Occurrence) (next : Monitor) : Prop where
  | pushed (hOther : o ≠ .happening (.turn .notices))
      (hNotices : next.notices = s.notices.pushAll (s.pushes o))
      (hDeliveries : next.deliveries = s.deliveries) (hOnward : Onward s next) :
      Stirs s o next
  | idle (hTurn : o = .happening (.turn .notices)) (hIdle : s.noticesTurn? = none)
      (hSame : next = s) : Stirs s o next
  | loop (hTurn : o = .happening (.turn .notices)) (hStarted : s.isStarted = true)
      (hRunning : s.notices.ended = false) (hActs : NoticesActs s next) : Stirs s o next

theorem notes_eq_nil {scene : Scene}
    (h : scene.ozoneEvent? = none ∧ scene.leakEvent? = none ∧ scene.temperatureEvent? = none)
    (source : Notice.Source) : scene.notes source = [] := by
  unfold Scene.notes
  rw [List.map_eq_nil_iff]
  cases source with
  | temperature => simp [Scene.effects, h]
  | ozone | leak =>
      cases hHappening : scene.happening with
      | start =>
          simp only [Scene.effects, hHappening]
          split <;> rfl
      | _ => simp [Scene.effects, hHappening, h]

theorem pushes_eq_nil {s : Monitor} {h : Happening}
    (hEvents : (Scene.mk s h).ozoneEvent? = none ∧ (Scene.mk s h).leakEvent? = none ∧
      (Scene.mk s h).temperatureEvent? = none) : s.pushes (.happening h) = [] := by
  simp [pushes, notes_eq_nil hEvents]

theorem foldl_push (d : Notice.Dispatcher) (source : Notice.Source) (texts : List String) :
    texts.foldl (fun d text => d.push ⟨source, text⟩) d =
      d.pushAll (texts.map (Notice.Message.mk source)) := by
  rw [Notice.Dispatcher.pushAll, List.foldl_map]

theorem stirs_silent {s next : Monitor} {h : Happening} (hOther : h ≠ .turn .notices)
    (hEvents : (Scene.mk s h).ozoneEvent? = none ∧ (Scene.mk s h).leakEvent? = none ∧
      (Scene.mk s h).temperatureEvent? = none)
    (hSame : next.notices = s.notices ∧ next.deliveries = s.deliveries)
    (hOnward : Onward s next) : Stirs s (.happening h) next := by
  refine .pushed ?_ ?_ hSame.2 hOnward
  · rintro ⟨⟩
    exact hOther rfl
  · rw [pushes_eq_nil hEvents]
    exact hSame.1

theorem stirs_aside {s next : Monitor} {h : Happening} (hOther : h ≠ .turn .notices)
    (hAside : Aside s h next)
    (hSame : next.notices = s.notices ∧ next.deliveries = s.deliveries) :
    Stirs s (.happening h) next := by
  refine stirs_silent hOther ⟨hAside.ozoneEvent, hAside.leakEvent, hAside.temperatureEvent⟩
    hSame ⟨?_, ?_⟩
  · rw [hAside.isStarted]
    exact id
  · rw [hAside.isCancelled]
    exact id

theorem console_stirs {s served next : Monitor} {console : Worker Console.Session}
    {event : Console.Event} {state : Console.Session} {effects : List Console.Effect}
    (hConsole : s.console = some console)
    (hEvent : s.consoleEvent? console = some (event, served))
    (hActs : ConsoleActs served state effects next) :
    Stirs s (.happening (.turn .console)) next := by
  refine stirs_aside (by simp) (console_aside hConsole hEvent hActs) ?_
  rcases consoleEvent_outside hConsole hEvent with ⟨outside, rfl, _⟩
  cases hActs with
  | sent hSent =>
      rcases (send_ok hSent).2 with ⟨_, _, _, _, _, rfl⟩ | ⟨_, _, _, _, _, rfl⟩
      · exact ⟨rfl, rfl⟩
      · exact ⟨rfl, rfl⟩
  | _ => exact ⟨rfl, rfl⟩

theorem ozone_stirs {s served : Monitor} {event : Ozone.Event}
    (hEvent : s.ozoneEvent? = some (event, served)) :
    Stirs s (.happening (.turn .ozone)) (served.handOzone event) := by
  have hPushes : s.pushes (.happening (.turn .ozone)) =
      (notesOf (s.ozone.state.step s.now event).2).map (Notice.Message.mk .ozone) := by
    simp [pushes, Scene.notes, Scene.effects, Scene.ozoneEvent?, Scene.leakEvent?,
      Scene.temperatureEvent?, hEvent]
  rcases ozoneServes_eq (ozoneEvent_serves hEvent) with ⟨outside, box, rfl⟩
  refine .pushed (by simp) ?_ ?_ ⟨by simp, by simp⟩
  · rw [handOzone_notices, foldl_push, hPushes]
  · simp only [handOzone_eq]
    split <;> rfl

theorem leak_stirs {s served : Monitor} {event : Leak.Event}
    (hEvent : s.leakEvent? = some (event, served)) :
    Stirs s (.happening (.turn .leak)) (served.handLeak event) := by
  have hPushes : s.pushes (.happening (.turn .leak)) =
      (notesOf (s.leak.state.step s.now event).2).map (Notice.Message.mk .leak) := by
    simp [pushes, Scene.notes, Scene.effects, Scene.ozoneEvent?, Scene.leakEvent?,
      Scene.temperatureEvent?, hEvent]
  rcases leakServes_eq (leakEvent_serves hEvent) with ⟨outside, rfl⟩
  refine .pushed (by simp) ?_ ?_ ⟨by simp, by simp⟩
  · rw [handLeak_notices, foldl_push, hPushes]
  · simp only [handLeak_eq]
    rfl

theorem temperature_stirs {s served : Monitor} {event : Temperature.Event}
    (hEvent : s.temperatureEvent? = some (event, served)) :
    Stirs s (.happening (.turn .temperature)) (served.handTemperature event) := by
  have hPushes : s.pushes (.happening (.turn .temperature)) =
      (notesOf (s.temperature.state.step s.now event).2).map
        (Notice.Message.mk .temperature) := by
    simp [pushes, Scene.notes, Scene.effects, Scene.ozoneEvent?, Scene.leakEvent?,
      Scene.temperatureEvent?, hEvent]
  rcases temperatureServes_eq (temperatureEvent_serves hEvent) with ⟨outside, box, rfl⟩
  refine .pushed (by simp) ?_ ?_ ⟨by simp, by simp⟩
  · rw [handTemperature_notices, foldl_push, hPushes]
  · simp only [handTemperature_eq]
    split <;> rfl

theorem start_stirs {s : Monitor} (hFresh : s.isFresh = true) :
    Stirs s (.happening .start) s.start.2 := by
  refine stirs_silent (by simp) ⟨rfl, rfl, rfl⟩ ?_
    ⟨fun _ => start_isStarted hFresh, fun hCancelled => ?_⟩
  · rw [start_fresh hFresh]
    dsimp only
    split <;> exact ⟨rfl, rfl⟩
  · simp [isFresh, hCancelled] at hFresh

theorem happening_stirs (s : Monitor) (h : Happening) :
    Stirs s (.happening h) (s.happen h) := by
  have hHappens := happens s h
  generalize s.happen h = next at hHappens
  cases hHappens with
  | @idle turn hIdle =>
      cases turn with
      | notices => exact .idle rfl hIdle rfl
      | _ => exact stirs_aside (by simp) (idle_aside hIdle) ⟨rfl, rfl⟩
  | ozone hEvent => exact ozone_stirs hEvent
  | leak hEvent => exact leak_stirs hEvent
  | temperature hEvent => exact temperature_stirs hEvent
  | notices hStarted hRunning hTurn => exact .loop rfl hStarted hRunning hTurn
  | console hConsole hEvent hStep hTurn => exact console_stirs hConsole hEvent hTurn
  | start hFresh => exact start_stirs hFresh
  | cancel =>
      rcases cancel_eq s with ⟨_, _, _, hCancel⟩
      rw [hCancel]
      exact stirs_silent (by simp) ⟨rfl, rfl, rfl⟩ ⟨rfl, rfl⟩ ⟨id, fun _ => rfl⟩
  | sent hSent =>
      refine stirs_aside (by simp) (sent_aside hSent) ?_
      rcases (send_ok hSent).2 with ⟨_, _, _, _, _, rfl⟩ | ⟨_, _, _, _, _, rfl⟩
      · exact ⟨rfl, rfl⟩
      · exact ⟨rfl, rfl⟩
  | _ => exact stirs_silent (by simp) ⟨rfl, rfl, rfl⟩ ⟨rfl, rfl⟩ ⟨id, id⟩

theorem stirs (s : Monitor) (o : Occurrence) : Stirs s o (s.occur o) := by
  cases o with
  | happening h => exact happening_stirs s h
  | push message => exact .pushed (by simp) rfl rfl ⟨id, id⟩
  | sink sink => exact .pushed (by simp) rfl rfl ⟨id, id⟩

end Monitor
end TubMonitor
