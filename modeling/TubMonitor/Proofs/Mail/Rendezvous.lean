import TubMonitor.Proofs.Deeds
import TubMonitor.Proofs.InOrder
import TubMonitor.Proofs.Mail.Posts
import TubMonitor.Proofs.Ozone.Tracking

/-!
# Rendezvous

In every course of events the ledgers of both channels are kept: letters are taken in
the order in which they were posted, one at a time, and each of them is answered once
it has been carried out or its mailbox has been closed, and not before.
-/

namespace TubMonitor
namespace Monitor

/-- The entries of a ledger bear the moments at which things were done. -/
structure Dated {α : Type} (answered lost : List (Nat × Letter α)) (acks losses : List Nat) :
    Prop where
  acks : answered.map Prod.fst = acks
  losses : lost.map Prod.fst = losses

structure Rendezvous (past : List Scene) (s : Monitor) : Prop where
  distinct : ((posts past).map Letter.ticket).Nodup
  below : forall letter, letter ∈ posts past -> letter.ticket < s.nextTicket
  results : forall result, result ∈ s.results -> result.ticket < s.nextTicket
  ozone : exists answered lost,
    Ledger (ozonePosts past) s.ozoneBox s.results answered s.ozone.state.held lost ∧
      ozoneTaken past = answered.map Prod.snd ++ s.ozone.state.held ∧
        Dated answered lost (Monitor.acks .ozone past) (losses Monitor.ozoneBox past)
  target : exists answered lost,
    Ledger (targetPosts past) s.targetBox s.results answered [] lost ∧
      targetTaken past = answered.map Prod.snd ∧
        Dated answered lost (Monitor.acks .temperature past) (losses Monitor.targetBox past)

def OzoneKept (past : List Scene) (s : Monitor) : Prop :=
  exists answered lost,
    Ledger (ozonePosts past) s.ozoneBox s.results answered s.ozone.state.held lost ∧
      ozoneTaken past = answered.map Prod.snd ++ s.ozone.state.held ∧
        Dated answered lost (acks .ozone past) (losses ozoneBox past)

def TargetKept (past : List Scene) (s : Monitor) : Prop :=
  exists answered lost,
    Ledger (targetPosts past) s.targetBox s.results answered [] lost ∧
      targetTaken past = answered.map Prod.snd ∧
        Dated answered lost (acks .temperature past) (losses targetBox past)

theorem dated_concat {α : Type} {answered lost : List (Nat × Letter α)}
    {source : Notice.Source} {box : Monitor -> Mailbox α} {past : List Scene} {scene : Scene}
    (h : Dated answered lost (acks source past) (losses box past))
    (hAcks : scene.acks source = []) (hLosses : scene.losses box = []) :
    Dated answered lost (acks source (past ++ [scene])) (losses box (past ++ [scene])) where
  acks := by rw [acks_concat, hAcks, List.append_nil, h.acks]
  losses := by rw [losses_concat, hLosses, List.append_nil, h.losses]

theorem dated_turn {α : Type} {answered lost : List (Nat × Letter α)} {source : Notice.Source}
    {box : Monitor -> Mailbox α} {past : List Scene} {scene : Scene}
    {acked left : List (Letter α)}
    (h : Dated answered lost (acks source past) (losses box past))
    (hAcks : ticketsOf (scene.effects source) = acked.map Letter.ticket)
    (hLosses : scene.losses box = left.map fun _ => scene.before.now) :
    Dated (answered ++ dated scene.before.now acked) (lost ++ dated scene.before.now left)
      (acks source (past ++ [scene])) (losses box (past ++ [scene])) where
  acks := by
    rw [acks_concat, List.map_append, h.acks, moments_dated, Scene.acks, hAcks, List.map_map]
    rfl
  losses := by rw [losses_concat, List.map_append, h.losses, moments_dated, hLosses]

theorem dated_loss {α : Type} {answered lost : List (Nat × Letter α)} {source : Notice.Source}
    {box : Monitor -> Mailbox α} {past : List Scene} {scene : Scene} {left : List (Letter α)}
    (h : Dated answered lost (acks source past) (losses box past))
    (hAcks : scene.acks source = [])
    (hLosses : scene.losses box = left.map fun _ => scene.before.now) :
    Dated answered (lost ++ dated scene.before.now left)
      (acks source (past ++ [scene])) (losses box (past ++ [scene])) where
  acks := by rw [acks_concat, hAcks, List.append_nil, h.acks]
  losses := by rw [losses_concat, List.map_append, h.losses, moments_dated, hLosses]

/-!
## What changes no ledger
-/

structure MailApart (s : Monitor) (h : Happening) (next : Monitor) : Prop where
  ozoneBox : next.ozoneBox = s.ozoneBox
  targetBox : next.targetBox = s.targetBox
  results : next.results = s.results
  nextTicket : next.nextTicket = s.nextTicket
  held : next.ozone.state.held = s.ozone.state.held
  post : (Scene.mk s h).post? = none
  ozoneEvent : (Scene.mk s h).ozoneEvent? = none
  temperatureEvent : (Scene.mk s h).temperatureEvent? = none
  ozoneDoor : (s.happen h).ozoneBox.isOpen = s.ozoneBox.isOpen
  targetDoor : (s.happen h).targetBox.isOpen = s.targetBox.isOpen

section Step

variable {past : List Scene} {s next : Monitor} {h : Happening}

theorem ozoneDoor_same (hNext : s.happen h = next) (hBox : next.ozoneBox = s.ozoneBox) :
    (s.happen h).ozoneBox.isOpen = s.ozoneBox.isOpen := by
  rw [hNext, hBox]

theorem targetDoor_same (hNext : s.happen h = next) (hBox : next.targetBox = s.targetBox) :
    (s.happen h).targetBox.isOpen = s.targetBox.isOpen := by
  rw [hNext, hBox]

theorem ozone_quiet {added : List Result} (hKept : OzoneKept past s)
    (hPost : (Scene.mk s h).post? = none) (hEvent : (Scene.mk s h).ozoneEvent? = none)
    (hDoor : (s.happen h).ozoneBox.isOpen = s.ozoneBox.isOpen)
    (hBox : next.ozoneBox = s.ozoneBox) (hHeld : next.ozone.state.held = s.ozone.state.held)
    (hResults : next.results = added ++ s.results)
    (hOther : forall result, result ∈ added ->
      result.ticket ∉ (ozonePosts past).map Letter.ticket) :
    OzoneKept (past ++ [⟨s, h⟩]) next := by
  rcases hKept with ⟨answered, lost, hLedger, hTaken, hDated⟩
  refine ⟨answered, lost, ?_, ?_,
    dated_concat hDated (acks_ozone_none hEvent) (losses_open hDoor)⟩
  · rw [ozonePosts, posts_none past hPost, hBox, hResults, hHeld]
    exact ledger_other hLedger hOther
  · rwa [hHeld, ozoneTaken_concat, ozoneLetters_none hEvent, List.append_nil]

theorem target_quiet {added : List Result} (hKept : TargetKept past s)
    (hPost : (Scene.mk s h).post? = none) (hEvent : (Scene.mk s h).temperatureEvent? = none)
    (hDoor : (s.happen h).targetBox.isOpen = s.targetBox.isOpen)
    (hBox : next.targetBox = s.targetBox) (hResults : next.results = added ++ s.results)
    (hOther : forall result, result ∈ added ->
      result.ticket ∉ (targetPosts past).map Letter.ticket) :
    TargetKept (past ++ [⟨s, h⟩]) next := by
  rcases hKept with ⟨answered, lost, hLedger, hTaken, hDated⟩
  refine ⟨answered, lost, ?_, ?_,
    dated_concat hDated (acks_target_none hEvent) (losses_open hDoor)⟩
  · rw [targetPosts, posts_none past hPost, hBox, hResults]
    exact ledger_other hLedger hOther
  · rwa [targetTaken_concat, targetLetters_none hEvent, List.append_nil]

theorem rendezvous_apart (hRendezvous : Rendezvous past s) (hApart : MailApart s h next) :
    Rendezvous (past ++ [⟨s, h⟩]) next := by
  have hPosts := posts_none past hApart.post
  have hResults : next.results = [] ++ s.results := hApart.results
  constructor
  · rw [hPosts]
    exact hRendezvous.distinct
  · rw [hPosts, hApart.nextTicket]
    exact hRendezvous.below
  · rw [hApart.results, hApart.nextTicket]
    exact hRendezvous.results
  · exact ozone_quiet hRendezvous.ozone hApart.post hApart.ozoneEvent hApart.ozoneDoor
      hApart.ozoneBox hApart.held hResults nofun
  · exact target_quiet hRendezvous.target hApart.post hApart.temperatureEvent
      hApart.targetDoor hApart.targetBox hResults nofun

/-!
## Posting
-/

theorem verdictOf_fresh (hRendezvous : Rendezvous past s) :
    verdictOf s.results s.nextTicket = none := by
  have hOther := verdictOf_other [] (fun result hResult =>
    Nat.ne_of_lt (hRendezvous.results result hResult))
  rwa [List.append_nil, verdictOf_nil] at hOther

theorem nextTicket_fresh (hRendezvous : Rendezvous past s) :
    s.nextTicket ∉ (posts past).map Letter.ticket := by
  intro hTicket
  rcases List.mem_map.mp hTicket with ⟨letter, hLetter, hSame⟩
  exact Nat.lt_irrefl _ (hSame ▸ hRendezvous.below letter hLetter)

theorem ozone_below (hRendezvous : Rendezvous past s) {ticket : Nat}
    (h : ticket ∈ (ozonePosts past).map Letter.ticket) : ticket < s.nextTicket := by
  rcases List.mem_map.mp h with ⟨letter, hLetter, rfl⟩
  exact hRendezvous.below _ (mem_ozonePosts.mp hLetter)

theorem target_below (hRendezvous : Rendezvous past s) {ticket : Nat}
    (h : ticket ∈ (targetPosts past).map Letter.ticket) : ticket < s.nextTicket := by
  rcases List.mem_map.mp h with ⟨letter, hLetter, rfl⟩
  exact hRendezvous.below _ (mem_targetPosts.mp hLetter)

theorem ozone_fresh (hRendezvous : Rendezvous past s) :
    s.nextTicket ∉ (ozonePosts past).map Letter.ticket :=
  fun hTicket => Nat.lt_irrefl _ (ozone_below hRendezvous hTicket)

theorem target_fresh (hRendezvous : Rendezvous past s) :
    s.nextTicket ∉ (targetPosts past).map Letter.ticket :=
  fun hTicket => Nat.lt_irrefl _ (target_below hRendezvous hTicket)

theorem results_below (hRendezvous : Rendezvous past s) {added : List Result}
    (h : forall result, result ∈ added -> result.ticket < s.nextTicket) :
    forall result, result ∈ added ++ s.results -> result.ticket < s.nextTicket := by
  intro result hResult
  rcases List.mem_append.mp hResult with hNew | hBefore
  · exact h result hNew
  · exact hRendezvous.results result hBefore

structure MailPosted (s : Monitor) (h : Happening) (order : Console.Order) (next : Monitor) :
    Prop where
  sent : exists posted, s.send order = (.ok s.nextTicket, posted) ∧
    next.ozoneBox = posted.ozoneBox ∧ next.targetBox = posted.targetBox ∧
      next.results = posted.results ∧ next.nextTicket = posted.nextTicket ∧
        next.ozone = posted.ozone
  post : (Scene.mk s h).post? = some ⟨order, s.nextTicket⟩
  ozoneEvent : (Scene.mk s h).ozoneEvent? = none
  temperatureEvent : (Scene.mk s h).temperatureEvent? = none
  next : s.happen h = next

theorem send_doors {order : Console.Order} {ticket : Nat} {posted : Monitor}
    (hSent : s.send order = (.ok ticket, posted)) :
    posted.ozoneBox.isOpen = s.ozoneBox.isOpen ∧
      posted.targetBox.isOpen = s.targetBox.isOpen := by
  rcases (send_ok hSent).2 with ⟨_, _, _, _, hBox, rfl⟩ | ⟨_, _, _, _, hBox, rfl⟩
  · have hOpen := Mailbox.isOpen_send hBox
    exact ⟨hOpen.2.trans hOpen.1.symm, rfl⟩
  · have hOpen := Mailbox.isOpen_send hBox
    exact ⟨rfl, hOpen.2.trans hOpen.1.symm⟩

theorem rendezvous_posted {order : Console.Order} (hRendezvous : Rendezvous past s)
    (hPosted : MailPosted s h order next) : Rendezvous (past ++ [⟨s, h⟩]) next := by
  have hPosts := posts_some past hPosted.post
  have hUnanswered := verdictOf_fresh hRendezvous
  have hOzoneFresh := ozone_fresh hRendezvous
  have hTargetFresh := target_fresh hRendezvous
  have hFresh := nextTicket_fresh hRendezvous
  rcases hPosted.sent with ⟨posted, hSent, hOzoneBox, hTargetBox, hResults, hTicket, hOzone⟩
  have hOzoneLosses : (Scene.mk s h).losses Monitor.ozoneBox = [] := by
    apply losses_open
    rw [Scene.after, hPosted.next, hOzoneBox]
    exact (send_doors hSent).1
  have hTargetLosses : (Scene.mk s h).losses Monitor.targetBox = [] := by
    apply losses_open
    rw [Scene.after, hPosted.next, hTargetBox]
    exact (send_doors hSent).2
  rcases hRendezvous with ⟨hDistinct, hBelow, hOld, ⟨answered, lost, hLedger, hTaken, hDated⟩,
    ⟨targetAnswered, targetLost, hTargetLedger, hTargetTaken, hTargetDated⟩⟩
  have hNext : next.nextTicket = s.nextTicket + 1 ∧ next.results = s.results ∧
      next.ozone = s.ozone := by
    rw [hTicket, hResults, hOzone]
    rcases (send_ok hSent).2 with ⟨_, _, _, _, _, rfl⟩ | ⟨_, _, _, _, _, rfl⟩
    all_goals exact ⟨rfl, rfl, rfl⟩
  rcases hNext with ⟨hTicket, hResults, hOzone⟩
  constructor
  · rw [hPosts, List.map_append, List.nodup_append]
    refine ⟨hDistinct, by simp, ?_⟩
    intro ticket hOldTicket other hOther hSame
    have hNew : other = s.nextTicket := List.mem_singleton.mp hOther
    rw [hSame, hNew] at hOldTicket
    exact hFresh hOldTicket
  · rw [hPosts, hTicket]
    intro letter hLetter
    rcases List.mem_append.mp hLetter with hBefore | hNow
    · exact Nat.lt_succ_of_lt (hBelow letter hBefore)
    · rw [List.mem_singleton.mp hNow]
      exact Nat.lt_succ_self _
  · rw [hResults, hTicket]
    intro result hResult
    exact Nat.lt_succ_of_lt (hOld result hResult)
  · refine ⟨answered, lost, ?_, ?_,
      dated_concat hDated (acks_ozone_none hPosted.ozoneEvent) hOzoneLosses⟩
    · rw [ozonePosts, hPosts, List.filterMap_append, hResults, hOzone, hOzoneBox]
      rcases (send_ok hSent).2 with ⟨command, box, hOrder, _, hBox, rfl⟩ |
        ⟨command, box, hOrder, _, hBox, rfl⟩
      · subst hOrder
        exact ledger_post hLedger hBox hOzoneFresh hUnanswered
      · subst hOrder
        rw [show [(⟨.target command, s.nextTicket⟩ : Letter Console.Order)].filterMap toOzone? =
          [] from rfl, List.append_nil]
        exact hLedger
    · rw [ozoneTaken_concat, ozoneLetters_none hPosted.ozoneEvent, List.append_nil, hOzone]
      exact hTaken
  · refine ⟨targetAnswered, targetLost, ?_, ?_,
      dated_concat hTargetDated (acks_target_none hPosted.temperatureEvent) hTargetLosses⟩
    · rw [targetPosts, hPosts, List.filterMap_append, hResults, hTargetBox]
      rcases (send_ok hSent).2 with ⟨command, box, hOrder, _, hBox, rfl⟩ |
        ⟨command, box, hOrder, _, hBox, rfl⟩
      · subst hOrder
        rw [show [(⟨.ozone command, s.nextTicket⟩ : Letter Console.Order)].filterMap toTarget? =
          [] from rfl, List.append_nil]
        exact hTargetLedger
      · subst hOrder
        exact ledger_post hTargetLedger hBox hTargetFresh hUnanswered
    · rw [targetTaken_concat, targetLetters_none hPosted.temperatureEvent, List.append_nil]
      exact hTargetTaken

/-!
## Refusing

A command of the console that is refused takes a ticket all the same.
-/

theorem rendezvous_refused {fault : Fault} (hRendezvous : Rendezvous past s)
    (hOzoneBox : next.ozoneBox = s.ozoneBox) (hTargetBox : next.targetBox = s.targetBox)
    (hResults : next.results = ⟨s.nextTicket, s.now, .error fault⟩ :: s.results)
    (hTicket : next.nextTicket = s.nextTicket + 1) (hOzone : next.ozone = s.ozone)
    (hPost : (Scene.mk s h).post? = none) (hOzoneEvent : (Scene.mk s h).ozoneEvent? = none)
    (hTemperatureEvent : (Scene.mk s h).temperatureEvent? = none) (hNext : s.happen h = next) :
    Rendezvous (past ++ [⟨s, h⟩]) next := by
  have hPosts := posts_none past hPost
  have hAdded : next.results = [⟨s.nextTicket, s.now, .error fault⟩] ++ s.results := hResults
  constructor
  · rw [hPosts]
    exact hRendezvous.distinct
  · rw [hPosts, hTicket]
    intro letter hLetter
    exact Nat.lt_succ_of_lt (hRendezvous.below letter hLetter)
  · rw [hResults, hTicket]
    intro result hResult
    rcases List.mem_cons.mp hResult with rfl | hBefore
    · exact Nat.lt_succ_self _
    · exact Nat.lt_succ_of_lt (hRendezvous.results result hBefore)
  · apply ozone_quiet hRendezvous.ozone hPost hOzoneEvent (ozoneDoor_same hNext hOzoneBox)
      hOzoneBox (by rw [hOzone]) hAdded
    intro result hResult
    rw [List.mem_singleton.mp hResult]
    exact ozone_fresh hRendezvous
  · apply target_quiet hRendezvous.target hPost hTemperatureEvent
      (targetDoor_same hNext hTargetBox) hTargetBox hAdded
    intro result hResult
    rw [List.mem_singleton.mp hResult]
    exact target_fresh hRendezvous

/-!
## Taking and answering
-/

/-- The letter that is taken passes from the mailbox into the hand of the loop. -/
theorem ozoneServes_ledger {served : Monitor} {event : Ozone.Event}
    {posted held : List (Letter Ozone.Command)}
    {answered lost : List (Nat × Letter Ozone.Command)}
    (hServes : OzoneServes s event served) (hFree : event.letters ≠ [] -> held = [])
    (hLedger : Ledger posted s.ozoneBox s.results answered held lost) :
    Ledger posted served.ozoneBox s.results answered (held ++ event.letters) lost := by
  cases hServes with
  | reply hPending hDue => simpa [Ozone.Event.letters] using hLedger
  | cancel hQuiet hWaiting hCancelled => simpa [Ozone.Event.letters] using hLedger
  | deadline hQuiet hRun hCancelled hDue => simpa [Ozone.Event.letters] using hLedger
  | command hQuiet hWaiting hCancelled hEarly hTake =>
      rw [hFree (by simp [Ozone.Event.letters])] at hLedger ⊢
      exact ledger_take hLedger hTake

theorem temperatureServes_ledger {served : Monitor} {event : Temperature.Event}
    {posted : List (Letter Temperature.Command)}
    {answered lost : List (Nat × Letter Temperature.Command)}
    (hServes : TemperatureServes s event served)
    (hLedger : Ledger posted s.targetBox s.results answered [] lost) :
    Ledger posted served.targetBox s.results answered event.letters lost := by
  cases hServes with
  | reply hPending hDue => exact hLedger
  | cancel hQuiet hWaiting hCancelled => exact hLedger
  | command hQuiet hWaiting hCancelled hTake => exact ledger_take hLedger hTake
  | tick hQuiet hTicker hWaiting hCancelled hEmpty hDue => exact hLedger

/-- A loop that comes to its end has taken nothing on the way. -/
theorem ozoneServes_kept {served : Monitor} {event : Ozone.Event} (hOrder : InOrder s)
    (hServes : OzoneServes s event served)
    (hEnded : (s.ozone.state.step s.now event).1.hasEnded = true) :
    served.ozoneBox = s.ozoneBox := by
  have hMove := ozone_move hOrder hServes
  cases hServes with
  | command hFree hWaiting hCancelled hEarly hTake =>
      have hRunning := Ozone.Controller.move_taken hMove (by simp [Ozone.Event.letters])
      simp [hRunning] at hEnded
  | _ => rfl

theorem temperatureServes_kept {served : Monitor} {event : Temperature.Event}
    (hOrder : InOrder s) (hServes : TemperatureServes s event served)
    (hEnded : (s.temperature.state.step s.now event).1.hasEnded = true) :
    served.targetBox = s.targetBox := by
  have hMove := temperature_move hOrder hServes
  cases hServes with
  | command hFree hWaiting hCancelled hTake =>
      have hRunning := Temperature.Sampler.move_taken hMove (by simp [Temperature.Event.letters])
      simp [hRunning] at hEnded
  | _ => rfl

theorem rendezvous_ozone {served : Monitor} {event : Ozone.Event} (hOrder : InOrder s)
    (hIdle : s.ozone.state.phase = .waiting none -> s.ozone.state.shown.running = false)
    (hRendezvous : Rendezvous past s) (hEvent : s.ozoneEvent? = some (event, served)) :
    Rendezvous (past ++ [⟨s, .turn .ozone⟩]) (served.handOzone event) := by
  have hServes := ozoneEvent_serves hEvent
  have hMove := ozone_move hOrder hServes
  have hPost : (Scene.mk s (.turn .ozone)).post? = none := rfl
  have hLetters : (Scene.mk s (.turn .ozone)).ozoneLetters = event.letters := by
    simp [Scene.ozoneLetters, Scene.ozoneEvent?, hEvent]
  have hNext : s.happen (.turn .ozone) = served.handOzone event := by
    simp [happen, turn?, ozoneTurn?, hEvent]
  rcases Ozone.Controller.move_answers hIdle hMove with ⟨acked, hAnswers⟩
  have hAcks : ticketsOf ((Scene.mk s (.turn .ozone)).effects .ozone) =
      acked.map Letter.ticket := by
    rw [← hAnswers.tickets]
    simp [Scene.effects, Scene.ozoneEvent?, hEvent]
  rcases hRendezvous.ozone with ⟨answered, lost, hLedger, hTaken, hDated⟩
  have hDoor := ozoneServes_door hServes
  have hKept := ozoneServes_kept hOrder hServes
  have hServed := ozoneServes_ledger hServes hAnswers.free hLedger
  rw [hAnswers.kept] at hServed
  rcases ozoneServes_eq hServes with ⟨outside, box, rfl⟩
  have hLosses : (Scene.mk s (.turn .ozone)).losses Monitor.ozoneBox = _ :=
    losses_turn (by rw [Scene.after, hNext, handOzone_ozoneBox]) hDoor hKept hLedger.cleared
  have hResults :
      (Monitor.handOzone { s with outside := outside, ozoneBox := box } event).results =
        s.turnResults (s.ozone.state.step s.now event).1.hasEnded box
          (ticketsOf (s.ozone.state.step s.now event).2) ++ s.results := by
    rw [handOzone_results, turnResults, List.append_assoc]
    rfl
  have hTurn := ledger_turn s (s.ozone.state.step s.now event).1.hasEnded hAnswers.tickets hServed
  have hAdded := turnResults_posted s (s.ozone.state.step s.now event).1.hasEnded
    hAnswers.tickets hServed
  constructor
  · rw [posts_none past hPost]
    exact hRendezvous.distinct
  · rw [posts_none past hPost, handOzone_nextTicket]
    exact hRendezvous.below
  · rw [hResults, handOzone_nextTicket]
    exact results_below hRendezvous fun result hNew => ozone_below hRendezvous (hAdded result hNew)
  · refine ⟨_, _, ?_, ?_, dated_turn hDated hAcks hLosses⟩
    · rw [ozonePosts, posts_none past hPost, handOzone_ozoneBox, hResults, handOzone_ozone]
      exact hTurn
    · rw [ozoneTaken_concat, hLetters, hTaken, handOzone_ozone, List.append_assoc,
        hAnswers.kept, List.map_append, letters_dated, List.append_assoc]
  · have hBox :
        (Monitor.handOzone { s with outside := outside, ozoneBox := box } event).targetBox =
          s.targetBox := by
      rw [handOzone_targetBox]
    apply target_quiet hRendezvous.target hPost rfl (targetDoor_same hNext hBox) hBox hResults
    intro result hResult
    exact tickets_apart hRendezvous.distinct (hAdded _ hResult)

theorem rendezvous_temperature {served : Monitor} {event : Temperature.Event}
    (hOrder : InOrder s) (hRendezvous : Rendezvous past s)
    (hEvent : s.temperatureEvent? = some (event, served)) :
    Rendezvous (past ++ [⟨s, .turn .temperature⟩]) (served.handTemperature event) := by
  have hServes := temperatureEvent_serves hEvent
  have hTickets := Temperature.Sampler.move_tickets (temperature_move hOrder hServes)
  have hPost : (Scene.mk s (.turn .temperature)).post? = none := rfl
  have hLetters : (Scene.mk s (.turn .temperature)).targetLetters = event.letters := by
    simp [Scene.targetLetters, Scene.temperatureEvent?, hEvent]
  have hNext : s.happen (.turn .temperature) = served.handTemperature event := by
    simp [happen, turn?, temperatureTurn?, hEvent]
  have hAcks : ticketsOf ((Scene.mk s (.turn .temperature)).effects .temperature) =
      event.letters.map Letter.ticket := by
    rw [← hTickets]
    simp [Scene.effects, Scene.temperatureEvent?, hEvent]
  rcases hRendezvous.target with ⟨answered, lost, hLedger, hTaken, hDated⟩
  have hDoor := temperatureServes_door hServes
  have hKept := temperatureServes_kept hOrder hServes
  have hServed := temperatureServes_ledger hServes hLedger
  rw [← List.append_nil event.letters] at hServed
  rcases temperatureServes_eq hServes with ⟨outside, box, rfl⟩
  have hLosses : (Scene.mk s (.turn .temperature)).losses Monitor.targetBox = _ :=
    losses_turn (by rw [Scene.after, hNext, handTemperature_targetBox]) hDoor hKept
      hLedger.cleared
  have hResults :
      (Monitor.handTemperature { s with outside := outside, targetBox := box } event).results =
        s.turnResults (s.temperature.state.step s.now event).1.hasEnded box
          (ticketsOf (s.temperature.state.step s.now event).2) ++ s.results := by
    rw [handTemperature_results, turnResults, List.append_assoc]
    rfl
  have hTurn := ledger_turn s (s.temperature.state.step s.now event).1.hasEnded hTickets hServed
  have hAdded := turnResults_posted s (s.temperature.state.step s.now event).1.hasEnded
    hTickets hServed
  constructor
  · rw [posts_none past hPost]
    exact hRendezvous.distinct
  · rw [posts_none past hPost, handTemperature_nextTicket]
    exact hRendezvous.below
  · rw [hResults, handTemperature_nextTicket]
    exact results_below hRendezvous fun result hNew => target_below hRendezvous (hAdded result hNew)
  · have hBox :
        (Monitor.handTemperature { s with outside := outside, targetBox := box } event).ozoneBox =
          s.ozoneBox := by
      rw [handTemperature_ozoneBox]
    apply ozone_quiet hRendezvous.ozone hPost rfl (ozoneDoor_same hNext hBox) hBox
      (by rw [handTemperature_ozone]) hResults
    intro result hResult hTicket
    exact tickets_apart hRendezvous.distinct hTicket (hAdded _ hResult)
  · refine ⟨_, _, ?_, ?_, dated_turn hDated hAcks hLosses⟩
    · rw [targetPosts, posts_none past hPost, handTemperature_targetBox, hResults]
      exact hTurn
    · rw [targetTaken_concat, hLetters, hTaken, List.map_append, letters_dated]

/-!
## Starting and cancelling
-/

theorem rendezvous_start (hOrder : InOrder s) (hRendezvous : Rendezvous past s)
    (hFresh : s.isFresh = true) : Rendezvous (past ++ [⟨s, .start⟩]) s.start.2 := by
  have hPost : (Scene.mk s .start).post? = none := rfl
  have hDormant := hOrder.ozone.begun.mpr (by simp_all [isFresh])
  have hHeld : s.ozone.state.held = [] := by simp [Ozone.Controller.held, hDormant]
  have hNext : s.happen .start = s.start.2 := rfl
  have hStart := start_fresh hFresh
  dsimp only at hStart
  split at hStart
  · rcases hRendezvous.target with ⟨answered, lost, hLedger, hTaken, hDated⟩
    have hLosses : (Scene.mk s .start).losses Monitor.targetBox = _ :=
      losses_closed (by rw [Scene.after, hNext, hStart]; rfl) hLedger.cleared
    have hResults : s.start.2.results =
        s.stoppedNow (s.targetBox.pending.map Letter.ticket).reverse ++ s.results := by
      rw [hStart]
    constructor
    · rw [posts_none past hPost]
      exact hRendezvous.distinct
    · rw [posts_none past hPost, hStart]
      exact hRendezvous.below
    · rw [hStart]
      exact results_below hRendezvous fun result hNew =>
        target_below hRendezvous (closed_posted hLedger hNew)
    · apply ozone_quiet hRendezvous.ozone hPost rfl (by rw [hNext, hStart]) (by rw [hStart])
        (by rw [hStart, hHeld]; rfl) hResults
      intro result hResult hTicket
      exact tickets_apart hRendezvous.distinct hTicket (closed_posted hLedger hResult)
    · refine ⟨answered, _, ?_, ?_, dated_loss hDated (acks_target_none rfl) hLosses⟩
      · rw [targetPosts, posts_none past hPost, hStart]
        exact ledger_closed s hLedger
      · rw [targetTaken_concat, targetLetters_none rfl, List.append_nil]
        exact hTaken
  · exact rendezvous_apart hRendezvous
      ⟨by rw [hStart], by rw [hStart], by rw [hStart], by rw [hStart], by rw [hStart, hHeld]; rfl,
        rfl, rfl, rfl, by rw [hNext, hStart], by rw [hNext, hStart]⟩

theorem rendezvous_cancel (hRendezvous : Rendezvous past s) :
    Rendezvous (past ++ [⟨s, .cancel⟩]) s.cancel := by
  have hPost : (Scene.mk s .cancel).post? = none := rfl
  have hNext : s.happen .cancel = s.cancel := rfl
  cases hFresh : s.isFresh with
  | false =>
      have hStale := cancel_stale hFresh
      exact rendezvous_apart hRendezvous
        ⟨by rw [hStale], by rw [hStale], by rw [hStale], by rw [hStale], by rw [hStale], rfl, rfl,
          rfl, by rw [hNext, hStale], by rw [hNext, hStale]⟩
  | true =>
      have hClosed := cancel_fresh hFresh
      rcases hRendezvous.ozone with ⟨answered, lost, hLedger, hTaken, hDated⟩
      rcases hRendezvous.target with
        ⟨targetAnswered, targetLost, hTargetLedger, hTargetTaken, hTargetDated⟩
      have hLosses : (Scene.mk s .cancel).losses Monitor.ozoneBox = _ :=
        losses_closed (by rw [Scene.after, hNext, hClosed]; rfl) hLedger.cleared
      have hTargetLosses : (Scene.mk s .cancel).losses Monitor.targetBox = _ :=
        losses_closed (by rw [Scene.after, hNext, hClosed]; rfl) hTargetLedger.cleared
      rw [hClosed]
      constructor
      · rw [posts_none past hPost]
        exact hRendezvous.distinct
      · rw [posts_none past hPost]
        exact hRendezvous.below
      · intro result hResult
        rcases List.mem_append.mp hResult with hTarget | hRest
        · exact target_below hRendezvous (closed_posted hTargetLedger hTarget)
        · exact results_below hRendezvous
            (fun _ hOzone => ozone_below hRendezvous (closed_posted hLedger hOzone)) _ hRest
      · refine ⟨answered, _, ?_, ?_, dated_loss hDated (acks_ozone_none rfl) hLosses⟩
        · rw [ozonePosts, posts_none past hPost]
          apply ledger_other (ledger_closed s hLedger)
          intro result hResult hTicket
          exact tickets_apart hRendezvous.distinct hTicket (closed_posted hTargetLedger hResult)
        · rw [ozoneTaken_concat, ozoneLetters_none rfl, List.append_nil]
          exact hTaken
      · refine ⟨targetAnswered, _, ?_, ?_,
          dated_loss hTargetDated (acks_target_none rfl) hTargetLosses⟩
        · rw [targetPosts, posts_none past hPost]
          apply ledger_closed s
          apply ledger_other hTargetLedger
          intro result hResult
          exact tickets_apart hRendezvous.distinct (closed_posted hLedger hResult)
        · rw [targetTaken_concat, targetLetters_none rfl, List.append_nil]
          exact hTargetTaken

end Step

/-!
## Every course keeps the ledgers
-/

theorem rendezvous_console {past : List Scene} {s served next : Monitor}
    {console : Worker Console.Session} {event : Console.Event} {state : Console.Session}
    {effects : List Console.Effect} (hRendezvous : Rendezvous past s)
    (hConsole : s.console = some console)
    (hEvent : s.consoleEvent? console = some (event, served))
    (hStep : console.state.step event = (state, effects))
    (hActs : ConsoleActs served state effects next)
    (hNext : s.happen (.turn .console) = next) :
    Rendezvous (past ++ [⟨s, .turn .console⟩]) next := by
  have hOrder : (Scene.mk s (.turn .console)).order? = orderIn effects := by
    simp [Scene.order?, consoleOrder?, hConsole, hEvent, hStep]
  rcases consoleEvent_outside hConsole hEvent with ⟨outside, rfl, _⟩
  cases hActs with
  | none =>
      have hPost : (Scene.mk s (.turn .console)).post? = none := by
        rw [Scene.post?, hOrder]
        rfl
      exact rendezvous_apart hRendezvous
        ⟨rfl, rfl, rfl, rfl, rfl, hPost, rfl, rfl, ozoneDoor_same hNext rfl,
          targetDoor_same hNext rfl⟩
  | print text =>
      have hPost : (Scene.mk s (.turn .console)).post? = none := by
        rw [Scene.post?, hOrder]
        rfl
      exact rendezvous_apart hRendezvous
        ⟨rfl, rfl, rfl, rfl, rfl, hPost, rfl, rfl, ozoneDoor_same hNext rfl,
          targetDoor_same hNext rfl⟩
  | call hPump =>
      have hPost : (Scene.mk s (.turn .console)).post? = none := by
        rw [Scene.post?, hOrder]
        rfl
      exact rendezvous_apart hRendezvous
        ⟨rfl, rfl, rfl, rfl, rfl, hPost, rfl, rfl, ozoneDoor_same hNext rfl,
          targetDoor_same hNext rfl⟩
  | @sent order ticket posted hSent =>
      rw [send_outside, Prod.mk.injEq] at hSent
      have hTicket : ticket = s.nextTicket := (send_ok (Prod.ext hSent.1 rfl)).1
      subst hTicket
      refine rendezvous_posted hRendezvous
        ⟨⟨(s.send order).2, Prod.ext hSent.1 rfl, ?_⟩, ?_, rfl, rfl, hNext⟩
      · rw [← hSent.2]
        exact ⟨rfl, rfl, rfl, rfl, rfl⟩
      · simp [Scene.post?, hOrder, orderIn, hSent.1]
  | @refused order fault hRefused =>
      rw [send_outside, Prod.mk.injEq] at hRefused
      refine rendezvous_refused hRendezvous rfl rfl rfl rfl rfl ?_ rfl rfl hNext
      simp [Scene.post?, hOrder, orderIn, hRefused.1]

theorem idle_apart {s : Monitor} {turn : Turn} (hIdle : s.turn? turn = none) :
    MailApart s (.turn turn) s := by
  have hAside := idle_aside hIdle
  have hNext : s.happen (.turn turn) = s := by rw [happen, hIdle, Option.getD_none]
  refine
    ⟨rfl, rfl, rfl, rfl, rfl, ?_, hAside.ozoneEvent, hAside.temperatureEvent,
      ozoneDoor_same hNext rfl,
          targetDoor_same hNext rfl⟩
  rw [Scene.post?, idle_order hIdle]
  rfl

theorem rendezvous_leak {past : List Scene} {s served : Monitor} {event : Leak.Event}
    (hOrder : InOrder s) (hRendezvous : Rendezvous past s)
    (hEvent : s.leakEvent? = some (event, served)) :
    Rendezvous (past ++ [⟨s, .turn .leak⟩]) (served.handLeak event) := by
  have hServes := leakEvent_serves hEvent
  have hTickets := Leak.Watch.move_tickets (leak_move hOrder hServes)
  have hNext : s.happen (.turn .leak) = served.handLeak event := by
    simp [happen, turn?, leakTurn?, hEvent]
  rcases leakServes_eq hServes with ⟨outside, rfl⟩
  refine rendezvous_apart hRendezvous
    ⟨by simp, by simp, ?_, by simp, by simp, rfl, rfl, rfl, by simp [hNext], by simp [hNext]⟩
  rw [handLeak_results]
  dsimp only
  rw [hTickets]
  rfl

theorem rendezvous_happen {past : List Scene} {s : Monitor} (hOrder : InOrder s)
    (hIdle : s.ozone.state.phase = .waiting none -> s.ozone.state.shown.running = false)
    (hRendezvous : Rendezvous past s) (h : Happening) :
    Rendezvous (past ++ [⟨s, h⟩]) (s.happen h) := by
  have hHappens := happens s h
  generalize hNext : s.happen h = next at hHappens
  cases hHappens with
  | idle hNothing => exact rendezvous_apart hRendezvous (idle_apart hNothing)
  | ozone hEvent => exact rendezvous_ozone hOrder hIdle hRendezvous hEvent
  | leak hEvent => exact rendezvous_leak hOrder hRendezvous hEvent
  | temperature hEvent => exact rendezvous_temperature hOrder hRendezvous hEvent
  | notices hStarted hRunning hActs =>
      cases hActs
      all_goals
        exact rendezvous_apart hRendezvous
          ⟨rfl, rfl, rfl, rfl, rfl, rfl, rfl, rfl, ozoneDoor_same hNext rfl,
          targetDoor_same hNext rfl⟩
  | ozoneLine hRefill =>
      have hApart : MailApart s (.turn .ozoneLine) s :=
        ⟨rfl, rfl, rfl, rfl, rfl, rfl, rfl, rfl,
          by rw [hNext]; exact Mailbox.isOpen_refill hRefill, targetDoor_same hNext rfl⟩
      rcases rendezvous_apart hRendezvous hApart with
        ⟨hDistinct, hBelow, hResults, ⟨answered, lost, hLedger, hTaken⟩, hTarget⟩
      exact ⟨hDistinct, hBelow, hResults,
        ⟨answered, lost, ledger_refill hLedger hRefill, hTaken⟩, hTarget⟩
  | targetLine hRefill =>
      have hApart : MailApart s (.turn .targetLine) s :=
        ⟨rfl, rfl, rfl, rfl, rfl, rfl, rfl, rfl, ozoneDoor_same hNext rfl,
          by rw [hNext]; exact Mailbox.isOpen_refill hRefill⟩
      rcases rendezvous_apart hRendezvous hApart with
        ⟨hDistinct, hBelow, hResults, hOzone, ⟨answered, lost, hLedger, hTaken⟩⟩
      exact ⟨hDistinct, hBelow, hResults, hOzone,
        ⟨answered, lost, ledger_refill hLedger hRefill, hTaken⟩⟩
  | console hConsole hEvent hStep hActs =>
      exact rendezvous_console hRendezvous hConsole hEvent hStep hActs hNext
  | start hFresh => exact rendezvous_start hOrder hRendezvous hFresh
  | cancel => exact rendezvous_cancel hRendezvous
  | @sent order ticket posted hSent =>
      have hTicket := (send_ok hSent).1
      subst hTicket
      refine rendezvous_posted hRendezvous
        ⟨⟨_, hSent, rfl, rfl, rfl, rfl, rfl⟩, ?_, rfl, rfl, hNext⟩
      simp [Scene.post?, Scene.order?, hSent]
  | @refused order fault hRefused =>
      refine rendezvous_apart hRendezvous
        ⟨rfl, rfl, rfl, rfl, rfl, ?_, rfl, rfl, ozoneDoor_same hNext rfl,
          targetDoor_same hNext rfl⟩
      simp [Scene.post?, Scene.order?, hRefused]
  | startRefused _ | joinEarly | join _ _ | converse _ | leave | shift _ | wait _ =>
      exact rendezvous_apart hRendezvous
        ⟨rfl, rfl, rfl, rfl, rfl, rfl, rfl, rfl, ozoneDoor_same hNext rfl,
          targetDoor_same hNext rfl⟩

theorem shown_idle {past : List Scene} {s : Monitor} (hTracks : Tracks past s)
    (hPhase : s.ozone.state.phase = .waiting none) : s.ozone.state.shown.running = false := by
  unfold Tracks at hTracks
  rw [hPhase] at hTracks
  exact hTracks.2

theorem rendezvous_after (config : Config) (now : Nat) (outside : Outside)
    (sink : Option Notice.Sink) (hs : List Happening) :
    Rendezvous ((assemble config now outside sink).scenes hs)
      ((assemble config now outside sink).after hs) := by
  induction hs using List.reverseRecOn with
  | nil =>
      exact
        { distinct := List.nodup_nil
          below := by simp [posts]
          results := by simp [assemble]
          ozone := ⟨[], [], ledger_empty, rfl, rfl, rfl⟩
          target := ⟨[], [], ledger_empty, rfl, rfl, rfl⟩ }
  | append_singleton hs h ih =>
      rw [scenes_concat, after_concat]
      exact rendezvous_happen (inOrder_after (inOrder_assemble config now outside sink) hs)
        (shown_idle (tracks_after config now outside sink hs)) ih h

end Monitor
end TubMonitor
