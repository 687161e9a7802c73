import TubMonitor.Proofs.Notice.Producers
import TubMonitor.Proofs.Notice.Traffic

/-!
# The law of notifications

However pushes, receives and deliveries follow one another, nobody waits for the queue,
what it accepts is handed to the sink once and in its order, and nothing is handed over
any more once the monitor has been cancelled.
-/

namespace TubMonitor

open Monitor

namespace Traffic

/-!
## The account of the queue
-/

/-- What has been accepted has been handed over, is waiting, or has no sink to go to. -/
structure Account (subject : String) (hasSink : Bool) (t : Traffic) : Prop where
  titled : t.monitor.notices.subject = subject
  equipped : t.monitor.notices.hasSink = hasSink
  room : t.monitor.notices.waiting.length ≤ Notice.capacity
  inOrder : hasSink = true ->
    t.handed.map Notice.Handing.message ++ t.monitor.notices.waiting = Notice.accepted t.offers
  kept : t.monitor.notices.waiting <:+ Notice.accepted t.offers
  aimless : hasSink = false -> t.handed = []
  oneByOne :
    t.monitor.deliveries.reverse.map Notice.Delivery.message ++
        t.monitor.notices.delivering.toList =
      t.handed.map Notice.Handing.message
  headed : forall handing, handing ∈ t.handed -> handing.subject = subject
  addressed : forall delivery, delivery ∈ t.monitor.deliveries -> delivery.subject = subject
  ends : t.monitor.notices.ended = true -> t.monitor.isCancelled = true
  busy : t.monitor.notices.delivering ≠ none ->
    t.monitor.isStarted = true ∧ t.monitor.notices.ended = false

theorem account_opening (config : Config) (now : Nat) (outside : Outside)
    (sink : Option Notice.Sink) :
    Account config.subject sink.isSome (opening (assemble config now outside sink)) where
  titled := rfl
  equipped := rfl
  room := Nat.zero_le _
  inOrder _ := rfl
  kept := List.suffix_rfl
  aimless _ := rfl
  oneByOne := rfl
  headed _ h := by cases h
  addressed _ h := by cases h
  ends h := by cases h
  busy h := absurd rfl h

theorem begun_same {s next : Monitor}
    (h : next.notices.delivering = s.notices.delivering) : s.begun next = [] := by
  unfold begun
  rw [h]
  cases s.notices.delivering <;> rfl

theorem begun_free {s next : Monitor} (h : next.notices.delivering = none) :
    s.begun next = [] := by
  unfold begun
  rw [h]
  cases s.notices.delivering <;> rfl

variable {subject : String} {hasSink : Bool} {t : Traffic}

theorem account_pushed {next : Monitor} {messages : List Notice.Message}
    (hAccount : Account subject hasSink t)
    (hNotices : next.notices = t.monitor.notices.pushAll messages)
    (hDeliveries : next.deliveries = t.monitor.deliveries) (hOnward : Onward t.monitor next) :
    Account subject hasSink
      { monitor := next
        offers := t.offers ++ t.monitor.notices.offers messages
        handed := t.handed ++ t.monitor.begun next } := by
  have hRoom := Notice.length_pushAll_le hAccount.room messages
  rw [← hNotices] at hRoom
  rw [Notice.pushAll_eq] at hNotices
  have hBegun : t.monitor.begun next = [] := begun_same (by rw [hNotices])
  rw [hBegun, List.append_nil]
  constructor
  case titled => rw [hNotices]; exact hAccount.titled
  case equipped => rw [hNotices]; exact hAccount.equipped
  case room => exact hRoom
  case inOrder =>
    intro hSink
    rw [hNotices, Notice.accepted_append, ← hAccount.inOrder hSink, List.append_assoc]
  case kept =>
    rcases hAccount.kept with ⟨earlier, hKept⟩
    rw [hNotices, Notice.accepted_append, ← hKept, List.append_assoc]
    exact List.suffix_append ..
  case aimless => exact hAccount.aimless
  case oneByOne => rw [hNotices, hDeliveries]; exact hAccount.oneByOne
  case headed => exact hAccount.headed
  case addressed => rw [hDeliveries]; exact hAccount.addressed
  case ends => rw [hNotices]; exact fun hEnded => hOnward.isCancelled (hAccount.ends hEnded)
  case busy =>
    rw [hNotices]
    intro hBusy
    exact ⟨hOnward.isStarted (hAccount.busy hBusy).1, (hAccount.busy hBusy).2⟩

theorem account_loop {next : Monitor} (hAccount : Account subject hasSink t)
    (hStarted : t.monitor.isStarted = true) (hRunning : t.monitor.notices.ended = false)
    (hActs : NoticesActs t.monitor next) :
    Account subject hasSink
      { monitor := next
        offers := t.offers
        handed := t.handed ++ t.monitor.begun next } := by
  cases hActs with
  | @delivered message hDelivering hDue =>
      rw [begun_free rfl, List.append_nil]
      refine { hAccount with oneByOne := ?_, addressed := ?_, busy := ?_ }
      · have hOne := hAccount.oneByOne
        rw [hDelivering] at hOne
        simpa [Monitor.delivered] using hOne
      · intro delivery hDelivery
        rcases List.mem_cons.mp hDelivery with rfl | hEarlier
        · exact hAccount.titled
        · exact hAccount.addressed delivery hEarlier
      · exact fun hBusy => absurd rfl hBusy
  | cancel hFree hCancelled =>
      have hBegun : t.monitor.begun
          { t.monitor with notices := { t.monitor.notices with ended := true } } = [] :=
        begun_free hFree
      rw [hBegun, List.append_nil]
      exact
        { hAccount with
          ends := fun _ => hCancelled
          busy := fun hBusy => absurd hFree hBusy }
  | @handed message rest due hFree hCancelled hSink hWaiting =>
      have hBegun : t.monitor.begun
          { t.monitor with
            notices := { t.monitor.notices with waiting := rest, delivering := some message }
            deliveryDue := due } = [⟨t.monitor.notices.subject, message⟩] := by
        simp [begun, hFree]
      have hLeft : rest <:+ t.monitor.notices.waiting := hWaiting ▸ List.suffix_cons message rest
      rw [hBegun]
      refine
        { hAccount with
          room := Nat.le_trans hLeft.length_le hAccount.room
          kept := hLeft.trans hAccount.kept
          inOrder := ?_, aimless := ?_, oneByOne := ?_, headed := ?_
          busy := fun _ => ⟨hStarted, hRunning⟩ }
      · intro hGiven
        rw [← hAccount.inOrder hGiven, hWaiting]
        simp
      · intro hNone
        rw [hAccount.equipped, hNone] at hSink
        cases hSink
      · have hOne := hAccount.oneByOne
        rw [hFree] at hOne
        simp only [Option.toList_none, List.append_nil] at hOne
        simp [hOne]
      · intro handing hHanding
        rcases List.mem_append.mp hHanding with hEarlier | hLast
        · exact hAccount.headed handing hEarlier
        · rw [List.mem_singleton.mp hLast]
          exact hAccount.titled
  | @dropped message rest hFree hCancelled hSink hWaiting =>
      have hLeft : rest <:+ t.monitor.notices.waiting := hWaiting ▸ List.suffix_cons message rest
      have hBegun : t.monitor.begun
          { t.monitor with notices := { t.monitor.notices with waiting := rest } } = [] :=
        begun_free hFree
      rw [hBegun, List.append_nil]
      refine
        { hAccount with
          room := Nat.le_trans hLeft.length_le hAccount.room
          kept := hLeft.trans hAccount.kept
          inOrder := ?_ }
      intro hGiven
      rw [hAccount.equipped, hGiven] at hSink
      cases hSink

theorem pushes_loop (s : Monitor) : s.pushes (.happening (.turn .notices)) = [] :=
  pushes_eq_nil ⟨rfl, rfl, rfl⟩

theorem account_occur (hAccount : Account subject hasSink t) (o : Occurrence) :
    Account subject hasSink (t.occur o) := by
  have hStirs := stirs t.monitor o
  unfold occur
  generalize t.monitor.occur o = next at hStirs
  cases hStirs with
  | pushed hOther hNotices hDeliveries hOnward =>
      exact account_pushed hAccount hNotices hDeliveries hOnward
  | idle hTurn hIdle hSame =>
      subst hTurn hSame
      rw [pushes_loop, begun_same rfl]
      simpa [Notice.Dispatcher.offers] using hAccount
  | loop hTurn hStarted hRunning hActs =>
      subst hTurn
      rw [pushes_loop]
      simpa [Notice.Dispatcher.offers] using account_loop hAccount hStarted hRunning hActs

theorem account_after (config : Config) (now : Nat) (outside : Outside)
    (sink : Option Notice.Sink) (os : List Occurrence) :
    Account config.subject sink.isSome
      ((opening (assemble config now outside sink)).after os) :=
  after_invariant (Account config.subject sink.isSome)
    (account_opening config now outside sink)
    (fun _ o hBefore => account_occur hBefore o) os

/-!
## Offers
-/

/-- A loop that goes on accepts what it has room for; the message under way takes no room. -/
structure Sincere (offer : Notice.Offer) : Prop where
  accepted : offer.isAccepted = true ↔
    offer.found.ended = false ∧ offer.found.waiting.length < 64
  refused : offer.isAccepted = false -> offer.left = offer.found

theorem sincere (offer : Notice.Offer) : Sincere offer where
  accepted := by
    rw [Notice.isAccepted_eq, Notice.Dispatcher.accepts_iff]
    rfl
  refused := by
    intro hRefused
    rw [Notice.isAccepted_eq] at hRefused
    exact Notice.Dispatcher.push_shut hRefused offer.message

theorem notices_pushed (s : Monitor) {o : Occurrence}
    (hOther : o ≠ .happening (.turn .notices)) :
    (s.occur o).notices = s.notices.pushAll (s.pushes o) := by
  cases stirs s o with
  | pushed _ hNotices _ _ => exact hNotices
  | idle hTurn _ _ => exact absurd hTurn hOther
  | loop hTurn _ _ _ => exact absurd hTurn hOther

/-!
## The loop by itself
-/

theorem noticesTurn?_delivered {s : Monitor} {message : Notice.Message}
    (hStarted : s.isStarted = true) (hRunning : s.notices.ended = false)
    (hDelivering : s.notices.delivering = some message) (hDue : s.deliveryDue ≤ s.now) :
    s.noticesTurn? =
      some { s.delivered message with notices := { s.notices with delivering := none } } := by
  simp [noticesTurn?, hStarted, hRunning, hDelivering, hDue, handNotices, delivered,
    Notice.Dispatcher.step]

/-- A loop that goes on rests only when nothing is waiting. -/
theorem waiting_idle {s : Monitor} (hStarted : s.isStarted = true)
    (hGoesOn : s.isCancelled = false) (hRunning : s.notices.ended = false)
    (hFree : s.notices.delivering = none) (hIdle : s.noticesTurn? = none) :
    s.notices.waiting = [] := by
  simpa [noticesTurn?, hStarted, hGoesOn, hRunning, hFree] using hIdle

/-!
## After a cancellation
-/

theorem begun_cancelled {s next : Monitor} {o : Occurrence} (hStirs : Stirs s o next)
    (hCancelled : s.isCancelled = true) : s.begun next = [] := by
  cases hStirs with
  | pushed hOther hNotices hDeliveries hOnward =>
      exact begun_same (by rw [hNotices, Notice.pushAll_eq])
  | idle hTurn hIdle hSame => exact begun_same (by rw [hSame])
  | loop hTurn hStarted hRunning hActs =>
      cases hActs with
      | delivered hDelivering hDue => exact begun_free rfl
      | cancel hFree hEnds => exact begun_free hFree
      | handed hFree hGoesOn hSink hWaiting =>
          rw [hCancelled] at hGoesOn
          cases hGoesOn
      | dropped hFree hGoesOn hSink hWaiting => exact begun_free hFree

theorem isCancelled_occur {s : Monitor} (hCancelled : s.isCancelled = true)
    (o : Occurrence) : (s.occur o).isCancelled = true := by
  have hStirs := stirs s o
  generalize s.occur o = next at hStirs
  cases hStirs with
  | pushed hOther hNotices hDeliveries hOnward => exact hOnward.isCancelled hCancelled
  | idle hTurn hIdle hSame => rw [hSame, hCancelled]
  | loop hTurn hStarted hRunning hActs => cases hActs <;> exact hCancelled

/-- Pushes still count, but nothing more is handed over. -/
structure Silenced (t next : Traffic) : Prop where
  isCancelled : next.monitor.isCancelled = true
  offers : t.offers <+: next.offers
  handed : next.handed = t.handed

theorem silenced_after {t : Traffic} (hCancelled : t.monitor.isCancelled = true)
    (later : List Occurrence) : Silenced t (t.after later) := by
  refine after_invariant (Silenced t) ⟨hCancelled, List.prefix_rfl, rfl⟩ ?_ later
  intro before o hBefore
  constructor
  case isCancelled => exact isCancelled_occur hBefore.isCancelled o
  case offers => exact hBefore.offers.trans (List.prefix_append ..)
  case handed =>
    show before.handed ++ before.monitor.begun _ = t.handed
    rw [begun_cancelled (stirs before.monitor o) hBefore.isCancelled, List.append_nil,
      hBefore.handed]

/-!
## The law
-/

/-- How pushes, the loop and the sink stand to one another at any moment. -/
structure Regular (subject : String) (hasSink : Bool) (t : Traffic) : Prop where
  /-- Who pushes a message is not held up, however full the queue is. -/
  unhindered : forall turn, turn ≠ .notices -> Unhindered t.monitor turn
  pushed : forall o, o ≠ .happening (.turn .notices) ->
    (t.monitor.occur o).notices = t.monitor.notices.pushAll (t.monitor.pushes o)
  sincere : forall offer, offer ∈ t.offers -> Sincere offer
  room : t.monitor.notices.waiting.length ≤ 64
  kept : t.monitor.notices.waiting <:+ Notice.accepted t.offers
  /-- What has been handed over is done with, or is the one message under way. -/
  oneByOne :
    t.monitor.deliveries.reverse.map Notice.Delivery.message ++
        t.monitor.notices.delivering.toList =
      t.handed.map Notice.Handing.message
  inOrder : hasSink = true ->
    t.handed.map Notice.Handing.message ++ t.monitor.notices.waiting = Notice.accepted t.offers
  aimless : hasSink = false -> t.handed = []
  headed : forall handing, handing ∈ t.handed -> handing.subject = subject
  addressed : forall delivery, delivery ∈ t.monitor.deliveries -> delivery.subject = subject
  ends : t.monitor.notices.ended = true -> t.monitor.isCancelled = true
  /-- Whatever the sink makes of a message, the loop is ready for the next one. -/
  passedOver : forall sink message, t.monitor.notices.delivering = some message ->
    t.monitor.deliveryDue ≤ t.monitor.now ->
      exists next, ({ t.monitor with sink } : Monitor).turn? .notices = some next ∧
        next.notices = { t.monitor.notices with delivering := none } ∧
        next.deliveries = ⟨t.monitor.now, subject, message⟩ :: t.monitor.deliveries
  idle : t.monitor.isStarted = true -> t.monitor.isCancelled = false ->
    t.monitor.notices.delivering = none -> t.monitor.turn? .notices = none ->
      t.monitor.notices.waiting = [] ∧
        (hasSink = true ->
          t.handed.map Notice.Handing.message = Notice.accepted t.offers)

theorem regular_of_account {subject : String} {hasSink : Bool} {t : Traffic}
    (hAccount : Account subject hasSink t) : Regular subject hasSink t where
  unhindered _ hOther := Monitor.unhindered t.monitor hOther
  pushed _ hOther := notices_pushed t.monitor hOther
  sincere offer _ := Traffic.sincere offer
  room := hAccount.room
  oneByOne := hAccount.oneByOne
  kept := hAccount.kept
  inOrder := hAccount.inOrder
  aimless := hAccount.aimless
  headed := hAccount.headed
  addressed := hAccount.addressed
  ends := hAccount.ends
  passedOver := by
    intro sink message hDelivering hDue
    have hBusy := hAccount.busy (by simp [hDelivering])
    have hTurn := noticesTurn?_delivered (s := { t.monitor with sink }) hBusy.1 hBusy.2
      hDelivering hDue
    refine ⟨_, hTurn, rfl, ?_⟩
    rw [← hAccount.titled]
    rfl
  idle := by
    intro hStarted hGoesOn hFree hIdle
    have hRunning : t.monitor.notices.ended = false := by
      cases hEnded : t.monitor.notices.ended with
      | false => rfl
      | true => rw [hAccount.ends hEnded] at hGoesOn; cases hGoesOn
    have hNone := waiting_idle hStarted hGoesOn hRunning hFree hIdle
    refine ⟨hNone, fun hSink => ?_⟩
    rw [← hAccount.inOrder hSink, hNone, List.append_nil]

/--
The law, after whatever has occurred: the queue and the loop are regular, and once the
monitor has been cancelled nothing that is not yet handed over will be, nor delivered.
-/
theorem notification_law (config : Config) (now : Nat) (outside : Outside)
    (sink : Option Notice.Sink) (os : List Occurrence) :
    let t := (opening (assemble config now outside sink)).after os
    Regular config.subject sink.isSome t ∧
      (t.monitor.isCancelled = true ->
        forall later,
          Silenced t (t.after later) ∧
            (t.after later).monitor.deliveries.reverse.map Notice.Delivery.message <+:
              t.handed.map Notice.Handing.message) := by
  intro t
  have hAccount : Account config.subject sink.isSome t := account_after config now outside sink os
  refine ⟨regular_of_account hAccount, ?_⟩
  intro hCancelled later
  have hSilenced := silenced_after hCancelled later
  refine ⟨hSilenced, ?_⟩
  have hLater : Account config.subject sink.isSome (t.after later) :=
    after_invariant (Account config.subject sink.isSome) hAccount
      (fun _ o hBefore => account_occur hBefore o) later
  rw [← hSilenced.handed, ← hLater.oneByOne]
  exact List.prefix_append ..

def faultySink : Notice.Sink where
  delay := 50
  fault text := if text = "B" then some (.notification "refused") else none

def cutShort : List Occurrence :=
  [ .happening .start, .push ⟨.leak, "A"⟩, .push ⟨.leak, "B"⟩, .happening (.turn .notices)
  , .happening (.wait 50), .happening (.turn .notices), .happening (.turn .notices)
  , .happening .cancel ]

def afterwards : List Occurrence :=
  [ .push ⟨.ozone, "C"⟩, .happening (.wait 100), .happening (.turn .notices)
  , .happening (.turn .notices) ]

theorem notification_law_cutShort :
    let start := opening (assemble ⟨0, 0, 1.0, 60, "Tub"⟩ 0
      ⟨.tub .standard, .memory .empty, .fair⟩ (some faultySink))
    let t := start.after cutShort
    t.monitor.isCancelled = true ∧
      t.handed = [⟨"Tub", ⟨.leak, "A"⟩⟩, ⟨"Tub", ⟨.leak, "B"⟩⟩] ∧
      (t.after afterwards).handed = t.handed ∧
      Notice.accepted (t.after afterwards).offers =
        [⟨.leak, "A"⟩, ⟨.leak, "B"⟩, ⟨.ozone, "C"⟩] ∧
      (t.after afterwards).monitor.deliveries =
        [⟨100, "Tub", ⟨.leak, "B"⟩⟩, ⟨50, "Tub", ⟨.leak, "A"⟩⟩] := by
  intro start t
  have hCancelled : t.monitor.isCancelled = true := by decide
  have hSilenced := ((notification_law ⟨0, 0, 1.0, 60, "Tub"⟩ 0
    ⟨.tub .standard, .memory .empty, .fair⟩ (some faultySink) cutShort).2 hCancelled
      afterwards).1
  exact ⟨hCancelled, by decide, hSilenced.handed, by decide, by decide⟩

end Traffic
end TubMonitor
