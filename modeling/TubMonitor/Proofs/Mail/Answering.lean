import TubMonitor.Proofs.Mail.Lanes

/-!
# Every command is answered

A command that was sent to a monitor which has been started, or given up, is told how it
came out in every fair course of events, whoever else sends commands and whatever the calls
of the loops meet with.
-/

namespace TubMonitor

theorem Ozone.Controller.held_of_free {c : Controller} (hFiled : c.Filed) (hFree : c.call? = none) :
    c.held = [] := by
  rcases c with ⟨phase, shown⟩
  cases phase with
  | labelling run ending stop =>
      unfold Filed at hFiled
      simp [call?] at hFree
      simp [hFree] at hFiled
  | dormant | waiting active | ended => rfl
  | _ => cases hFree

namespace Monitor

/-- What holds in every state that can be reached, about the loops and their mail. -/
structure MailInOrder (past : List Scene) (s : Monitor) : Prop where
  order : InOrder s
  doors : Doors s
  idle : s.ozone.state.phase = .waiting none -> s.ozone.state.shown.running = false
  rendezvous : Rendezvous past s

theorem mailInOrder_after (config : Config) (now : Nat) (outside : Outside)
    (sink : Option Notice.Sink) (hs : List Happening) :
    MailInOrder ((assemble config now outside sink).scenes hs)
      ((assemble config now outside sink).after hs) where
  order := inOrder_after (inOrder_assemble config now outside sink) hs
  doors := doors_after (inOrder_assemble config now outside sink)
    (doors_assemble config now outside sink) hs
  idle := shown_idle (tracks_after config now outside sink hs)
  rendezvous := rendezvous_after config now outside sink hs

theorem reply?_due {s : Monitor} {pending : Pending} (hDue : pending.due ≤ s.now) :
    s.reply? pending =
      some ((s.outside.answer s.now pending.call).1,
        { s with outside := (s.outside.answer s.now pending.call).2 }) := by
  rw [reply?, if_pos hDue]

/-!
## A loop that can go on
-/

theorem goesOn_of_open {s : Monitor} (hStale : s.isFresh = false) {isOpen ended : Bool}
    (hDoor : isOpen = true ↔ s.GoesOn ended) (hOpen : isOpen = true) :
    s.isStarted = true ∧ ended = false := by
  rcases hDoor.mp hOpen with hFresh | hRuns
  · rw [hStale] at hFresh
    cases hFresh
  · exact hRuns

section Ready

variable {past : List Scene} {s : Monitor} (hMail : MailInOrder past s)

include hMail

theorem ozone_ready (hStale : s.isFresh = false) {ticket : Nat}
    (hHas : s.ozoneDesk.Has ticket) (hReady : s.ozoneDesk.stalls ticket = false)
    (hDue : s.ozoneDesk.due ≤ s.now) :
    exists event served, s.ozoneEvent? = some (event, served) := by
  cases hPending : s.ozone.pending with
  | some pending =>
      have hPast : pending.due ≤ s.now := by
        simpa [ozoneDesk, pendingDue, hPending] using hDue
      exact ⟨_, _, by simp only [ozoneEvent?, hPending, reply?_due hPast, Option.map_some]; rfl⟩
  | none =>
      have hFree : s.ozone.state.call? = none := by
        rw [← hMail.order.ozone.call, hPending]
        rfl
      have hHeld := Ozone.Controller.held_of_free hMail.order.ozone.filed hFree
      have hWaits : ¬ s.ozoneDesk.InHand ticket := by
        rw [Desk.InHand, ozoneDesk, hHeld]
        exact List.not_mem_nil
      rcases Desk.not_stalls hReady hWaits with ⟨letter, hSlot⟩
      have hLetters := (Desk.has_iff.mp hHas).resolve_left hWaits
      have hOpen : s.ozoneBox.isOpen = true := by
        cases hDoor : s.ozoneBox.isOpen with
        | true => rfl
        | false =>
            rcases hMail.rendezvous.ozone with ⟨_, _, hLedger, _⟩
            rw [ozoneDesk, hLedger.cleared hDoor] at hLetters
            cases hLetters
      rcases goesOn_of_open hStale hMail.doors.ozone hOpen with ⟨hStarted, hRunning⟩
      have hBegun : s.ozone.state.phase ≠ .dormant :=
        fun hDormant => by simp [hMail.order.ozone.begun.mp hDormant] at hStarted
      have hLeft : 0 < s.ozone.state.turnsLeft := by
        apply Nat.pos_of_ne_zero
        intro hNone
        rw [Ozone.Controller.hasEnded_of_turnsLeft hBegun hNone] at hRunning
        cases hRunning
      have hWaiting :=
        Ozone.Controller.isWaiting_of_turnsLeft hMail.order.ozone.filed hFree hLeft
      have hTake : s.ozoneBox.take? = some (letter, { s.ozoneBox with slot := none }) := by
        rw [Mailbox.take?, show s.ozoneBox.slot = some letter from hSlot]
        rfl
      unfold ozoneEvent?
      rw [hPending]
      simp only [hWaiting, Bool.not_true, Bool.false_eq_true, if_false, hTake, Option.map_some]
      split
      · exact ⟨_, _, rfl⟩
      · split
        · exact ⟨_, _, rfl⟩
        · exact ⟨_, _, rfl⟩

theorem target_ready (hStale : s.isFresh = false) {ticket : Nat}
    (hHas : s.targetDesk.Has ticket) (hReady : s.targetDesk.stalls ticket = false)
    (hDue : s.targetDesk.due ≤ s.now) :
    exists event served, s.temperatureEvent? = some (event, served) := by
  cases hPending : s.temperature.pending with
  | some pending =>
      have hPast : pending.due ≤ s.now := by
        simpa [targetDesk, pendingDue, hPending] using hDue
      exact ⟨_, _,
        by simp only [temperatureEvent?, hPending, reply?_due hPast, Option.map_some]; rfl⟩
  | none =>
      have hFree : s.temperature.state.Expects none := by
        have hExpects := hMail.order.temperature.expects
        rwa [hPending] at hExpects
      have hWaits : ¬ s.targetDesk.InHand ticket := List.not_mem_nil
      rcases Desk.not_stalls hReady hWaits with ⟨letter, hSlot⟩
      have hLetters := (Desk.has_iff.mp hHas).resolve_left hWaits
      have hOpen : s.targetBox.isOpen = true := by
        cases hDoor : s.targetBox.isOpen with
        | true => rfl
        | false =>
            rcases hMail.rendezvous.target with ⟨_, _, hLedger, _⟩
            rw [targetDesk, hLedger.cleared hDoor] at hLetters
            cases hLetters
      rcases goesOn_of_open hStale hMail.doors.target hOpen with ⟨hStarted, hRunning⟩
      have hBegun : s.temperature.state.phase ≠ .dormant :=
        fun hDormant => by simp [hMail.order.temperature.begun.mp hDormant] at hStarted
      have hLeft : 0 < s.temperature.state.turnsLeft := by
        apply Nat.pos_of_ne_zero
        intro hNone
        rw [Temperature.Sampler.hasEnded_of_turnsLeft hBegun hNone] at hRunning
        cases hRunning
      have hWaiting := Temperature.Sampler.isWaiting_of_turnsLeft hFree hLeft
      have hTake : s.targetBox.take? = some (letter, { s.targetBox with slot := none }) := by
        rw [Mailbox.take?, show s.targetBox.slot = some letter from hSlot]
        rfl
      unfold temperatureEvent?
      rw [hPending]
      simp only [hWaiting, Bool.not_true, Bool.false_eq_true, if_false, hTake]
      split
      · exact ⟨_, _, rfl⟩
      · exact ⟨_, _, rfl⟩

end Ready

/-!
## Along a fair course
-/

/-- The desk of a loop that gets on with its commands, all along the course. -/
structure Attends {α : Type} (s : Monitor) (course : Nat -> Happening) (desk : Monitor -> Desk α)
    (loop line : Turn) : Prop where
  distinct : forall n, ((desk (s.along course n)).letters.map Letter.ticket).Nodup
  light : forall n, (desk (s.along course n)).load ≤ 21
  steps : forall n, Desk.Steps (desk (s.along course n)) (desk (s.along course (n + 1)))
  refills : forall n box, course n = .turn line ->
    (desk (s.along course n)).box.refill? = some box ->
    (desk (s.along course (n + 1))).box = box ∧
      Desk.SameLoop (desk (s.along course n)) (desk (s.along course (n + 1)))
  works : forall n ticket, course n = .turn loop -> (desk (s.along course n)).Has ticket ->
    (desk (s.along course n)).stalls ticket = false ->
    (desk (s.along course n)).due ≤ (s.along course n).now ->
    Desk.Works (desk (s.along course n)) (desk (s.along course (n + 1)))

theorem attends_falls {α : Type} {s : Monitor} {course : Nat -> Happening}
    {desk : Monitor -> Desk α} {loop line : Turn} (h : Attends s course desk loop line)
    (ticket : Nat) :
    Falls s course (fun n => (desk (s.along course n)).Has ticket)
      (fun n => ¬ (desk (s.along course n)).Has ticket)
      (fun n => (desk (s.along course n)).rank ticket)
      (fun n => Desk.helper loop line (desk (s.along course n)) ticket) where
  step := by
    intro n hHas
    by_cases hStill : (desk (s.along course (n + 1))).Has ticket
    · right
      refine ⟨hStill, ?_⟩
      rcases Desk.steps_nears loop line (h.distinct n) (h.light n) (h.light (n + 1)) hHas
        (h.steps n) with (hDone | hLower) | hAlike
      · exact absurd hStill hDone
      · exact Or.inl hLower
      · exact Or.inr ⟨hAlike.rank, hAlike.helper⟩
    · exact Or.inl hStill
  turn := by
    intro n hHas hDue hTurn
    cases hStalls : (desk (s.along course n)).stalls ticket with
    | true =>
        simp only [Desk.helper, hStalls, if_true] at hTurn
        rcases Desk.refill_stalls hHas hStalls with ⟨box, hRefill⟩
        rcases h.refills n box hTurn hRefill with ⟨hBox, hLoop⟩
        rw [← hBox] at hRefill
        exact Desk.refilled_nears (h.light n) hStalls hRefill hLoop
    | false =>
        simp only [Desk.helper, hStalls, Bool.false_eq_true, if_false] at hTurn hDue
        have hWorks := h.works n ticket hTurn hHas hStalls hDue
        exact Desk.works_nears (h.distinct n) (h.light (n + 1)) hStalls hWorks

section Course

variable {past : List Scene} {s : Monitor} {course : Nat -> Happening}
  (hMail : forall n, MailInOrder (past ++ s.scenes ((List.range n).map course)) (s.along course n))
  (hStale : forall n, (s.along course n).isFresh = false)

include hMail hStale

theorem along_bothStep (n : Nat) : BothStep (s.along course n) (s.along course (n + 1)) := by
  rw [along_succ]
  exact happen_bothStep (hMail n).order (hMail n).idle (hStale n) _

theorem ozone_attends : Attends s course ozoneDesk .ozone .ozoneLine where
  distinct := by
    intro n
    rcases (hMail n).rendezvous.ozone with ⟨_, _, hLedger, _⟩
    exact ledger_undone hLedger
  light := fun n => Ozone.Controller.load_le _
  steps := fun n => (along_bothStep hMail hStale n).ozone
  refills := by
    intro n box hTurn hRefill
    have hNext : s.along course (n + 1) = { s.along course n with ozoneBox := box } := by
      rw [along_succ, hTurn, happen, turn?, ozoneLineTurn?,
        show (s.along course n).ozoneBox.refill? = some box from hRefill]
      rfl
    rw [hNext]
    exact ⟨rfl, rfl, rfl, rfl⟩
  works := by
    intro n ticket hTurn hHas hReady hDue
    rcases ozone_ready (hMail n) (hStale n) hHas hReady hDue with ⟨event, served, hEvent⟩
    have hNext : s.along course (n + 1) = served.handOzone event := by
      rw [along_succ, hTurn, happen, turn?, ozoneTurn?, hEvent]
      rfl
    rw [hNext]
    exact ozone_works (hMail n).order (hMail n).idle hEvent

theorem target_attends : Attends s course targetDesk .temperature .targetLine where
  distinct := by
    intro n
    rcases (hMail n).rendezvous.target with ⟨_, _, hLedger, _⟩
    exact ledger_undone hLedger
  light := fun n => Nat.le_trans (Temperature.Sampler.turnsLeft_le _) (by decide)
  steps := fun n => (along_bothStep hMail hStale n).target
  refills := by
    intro n box hTurn hRefill
    have hNext : s.along course (n + 1) = { s.along course n with targetBox := box } := by
      rw [along_succ, hTurn, happen, turn?, targetLineTurn?,
        show (s.along course n).targetBox.refill? = some box from hRefill]
      rfl
    rw [hNext]
    exact ⟨rfl, rfl, rfl, rfl⟩
  works := by
    intro n ticket hTurn hHas hReady hDue
    rcases target_ready (hMail n) (hStale n) hHas hReady hDue with ⟨event, served, hEvent⟩
    have hNext : s.along course (n + 1) = served.handTemperature event := by
      rw [along_succ, hTurn, happen, turn?, temperatureTurn?, hEvent]
      rfl
    rw [hNext]
    rcases target_works (hMail n).order hEvent with hWorks | ⟨hEmpty, _⟩
    · exact hWorks
    · rcases Desk.not_stalls hReady List.not_mem_nil with ⟨letter, hSlot⟩
      rw [targetDesk, hEmpty] at hSlot
      cases hSlot

end Course

/-!
## The answer comes
-/

theorem undone_of_ledger {α : Type} {posted held : List (Letter α)}
    {answered lost : List (Nat × Letter α)} {box : Mailbox α} {results : List Result}
    (h : Ledger posted box results answered held lost) {letter : Letter α}
    (hPosted : letter ∈ posted) (hUntold : outcomeOf results letter.ticket = none) :
    letter ∈ held ++ box.pending := by
  rcases (ledger_mem h).mp hPosted with hAnswered | hUndone | hLost
  · rw [outcome_answered h hAnswered] at hUntold
    cases hUntold
  · exact hUndone
  · rw [outcome_lost h hLost] at hUntold
    cases hUntold

section Told

variable {past : List Scene} {s : Monitor} {course : Nat -> Happening}

theorem posts_along {letter : Letter Console.Order} {n m : Nat} (h : n ≤ m)
    (hPosted : letter ∈ posts (past ++ s.scenes ((List.range n).map course))) :
    letter ∈ posts (past ++ s.scenes ((List.range m).map course)) := by
  rcases Nat.exists_eq_add_of_le h with ⟨steps, rfl⟩
  rw [List.range_add, List.map_append, scenes_append, ← List.append_assoc, posts,
    List.filterMap_append]
  exact List.mem_append_left _ hPosted

theorem told_of_attends {α : Type} {desk : Monitor -> Desk α} {loop line : Turn}
    (hFair : Fair course) (hAttends : Attends s course desk loop line) {ticket n : Nat}
    (hUndone : forall m, n ≤ m -> outcomeOf (s.along course m).results ticket = none ->
      (desk (s.along course m)).Has ticket) :
    exists m, n ≤ m ∧ exists outcome,
      outcomeOf (s.along course m).results ticket = some outcome := by
  cases hNow : outcomeOf (s.along course n).results ticket with
  | some outcome => exact ⟨n, Nat.le_refl n, outcome, hNow⟩
  | none =>
      have hHas := hUndone n (Nat.le_refl n) hNow
      rcases falls_reaches hFair (attends_falls hAttends ticket) hHas with ⟨m, hLater, hDone⟩
      cases hThen : outcomeOf (s.along course m).results ticket with
      | none => exact absurd (hUndone m (Nat.le_of_lt hLater) hThen) hDone
      | some outcome => exact ⟨m, Nat.le_of_lt hLater, outcome, hThen⟩

theorem told_along
    (hMail : forall n,
      MailInOrder (past ++ s.scenes ((List.range n).map course)) (s.along course n))
    (hStale : forall n, (s.along course n).isFresh = false) (hFair : Fair course)
    {letter : Letter Console.Order} {n : Nat}
    (hPosted : letter ∈ posts (past ++ s.scenes ((List.range n).map course))) :
    exists m, n ≤ m ∧ exists outcome,
      outcomeOf (s.along course m).results letter.ticket = some outcome := by
  rcases letter with ⟨order, ticket⟩
  cases order with
  | ozone command =>
      refine told_of_attends hFair (ozone_attends hMail hStale) fun m hLater hUntold => ?_
      rcases (hMail m).rendezvous.ozone with ⟨_, _, hLedger, _⟩
      have hPost : (⟨command, ticket⟩ : Letter Ozone.Command) ∈ ozonePosts _ :=
        mem_ozonePosts.mpr (posts_along hLater hPosted)
      exact List.mem_map_of_mem (undone_of_ledger hLedger hPost hUntold)
  | target command =>
      refine told_of_attends hFair (target_attends hMail hStale) fun m hLater hUntold => ?_
      rcases (hMail m).rendezvous.target with ⟨_, _, hLedger, _⟩
      have hPost : (⟨command, ticket⟩ : Letter Temperature.Command) ∈ targetPosts _ :=
        mem_targetPosts.mpr (posts_along hLater hPosted)
      exact List.mem_map_of_mem (undone_of_ledger hLedger hPost hUntold)

end Told

end Monitor
end TubMonitor
