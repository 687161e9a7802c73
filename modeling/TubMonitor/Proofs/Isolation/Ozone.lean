import TubMonitor.Proofs.Isolation.Parts

/-!
# The ozone loop by itself
-/

namespace TubMonitor
namespace Monitor

section Ozone

variable {s t : Monitor}

theorem ozonePart_same {next : Monitor} (h : Same .ozone s next) :
    ozonePart next = ozonePart s := by
  have hLoop : next.ozone = s.ozone ∧ next.ozoneBox = s.ozoneBox := h.loop
  unfold ozonePart
  rw [h.now, hLoop.1, hLoop.2, h.rows]

/-- What two states have in common for the ozone loop. -/
structure OzoneAlike (s t : Monitor) : Prop where
  now : s.now = t.now
  state : s.ozone.state.anonymous = t.ozone.state.anonymous
  pending : s.ozone.pending = t.ozone.pending
  box : s.ozoneBox.anonymous = t.ozoneBox.anonymous
  rows : s.outside.store.only .ozone = t.outside.store.only .ozone

theorem ozonePart_eq : ozonePart s = ozonePart t ↔ OzoneAlike s t := by
  simp only [ozonePart, Part.mk.injEq]
  exact ⟨fun ⟨hNow, hState, hPending, hBox, hRows⟩ =>
      ⟨hNow, hState, hPending, hBox, hRows⟩,
    fun h => ⟨h.now, h.state, h.pending, h.box, h.rows⟩⟩

/-!
## Whether there is anything to do
-/

theorem ozoneTurn_isSome (s : Monitor) :
    (s.turn? .ozone).isSome =
      match s.ozone.pending with
      | some pending => decide (pending.due ≤ s.now)
      | none =>
          s.ozone.state.isWaiting &&
            (s.isCancelled || s.ozone.state.active?.any (fun run => run.deadline ≤ s.now) ||
              s.ozoneBox.slot.isSome) := by
  simp only [turn?, ozoneTurn?, Option.isSome_map, ozoneEvent?]
  cases hPending : s.ozone.pending with
  | some pending =>
      simp only [Option.isSome_map, reply?]
      split <;> simp_all
  | none =>
      dsimp only
      cases s.ozone.state.isWaiting with
      | false => rfl
      | true =>
          cases s.isCancelled with
          | true => rfl
          | false =>
              cases hDue : s.ozone.state.active?.any fun run => run.deadline ≤ s.now with
              | true => simp
              | false => simp [Mailbox.take?]

theorem ozone_able {turn : Turn} (hAlike : Alike .ozone ozonePart s t)
    (hTurn : turn = .ozone ∨ some .ozoneLine = some turn) :
    (s.turn? turn).isSome = (t.turn? turn).isSome := by
  have hPart := ozonePart_eq.mp hAlike.part
  rcases hTurn with rfl | hLine
  · have hWaiting := congrArg Ozone.Controller.isWaiting hPart.state
    have hActive := congrArg Ozone.Controller.active? hPart.state
    rw [Ozone.Controller.anonymous_isWaiting, Ozone.Controller.anonymous_isWaiting] at hWaiting
    rw [Ozone.Controller.anonymous_active?, Ozone.Controller.anonymous_active?] at hActive
    rw [ozoneTurn_isSome, ozoneTurn_isSome, hPart.pending, hPart.now, hWaiting, hActive,
      Mailbox.slot_alike hPart.box, hAlike.first.going, hAlike.second.going]
  · cases hLine
    have hRefill := congrArg (fun m => m.refill?.isSome) hPart.box
    simp only [Mailbox.anonymous_refill, Option.isSome_map] at hRefill
    simpa [turn?, ozoneLineTurn?] using hRefill

/-!
## A step
-/

variable {fates : Nat -> Fate} {made : Nat}

/-- What is served: the event, what is left in the mailbox and what is in the store. -/
structure OzoneServed (first second : Monitor) (event other : Ozone.Event) : Prop where
  event : event.anonymous = other.anonymous
  box : first.ozoneBox.anonymous = second.ozoneBox.anonymous
  rows : first.outside.store.only .ozone = second.outside.store.only .ozone

theorem ozoneServes_alike {event other : Ozone.Event} {served servedToo : Monitor}
    (hAlike : Alike .ozone ozonePart s t) (hFirst : OzoneServes s event served)
    (hSecond : OzoneServes t other servedToo)
    (hMeets : (Scene.mk s (.turn .ozone)).Meets .ozone fates made)
    (hMeetsToo : (Scene.mk t (.turn .ozone)).Meets .ozone fates made) :
    OzoneServed served servedToo event other := by
  have hPart := ozonePart_eq.mp hAlike.part
  have hGoing := hAlike.first.going
  have hActive := congrArg Ozone.Controller.active? hPart.state
  rw [Ozone.Controller.anonymous_active?, Ozone.Controller.anonymous_active?] at hActive
  cases hFirst with
  | @reply pending hPending hDue =>
      have hPendingToo : t.ozone.pending = some pending := hPart.pending ▸ hPending
      cases hSecond with
      | @reply other hOther hDueToo =>
          rw [hPendingToo, Option.some.injEq] at hOther
          subst hOther
          have hUnderWay : s.underWay? .ozone = some pending := hPending
          have hAnswer := answer_fate hAlike.first.order hUnderWay hPart.now hPart.rows
            (hMeets.answered pending rfl hPending hDue)
            (hMeetsToo.answered pending rfl hPendingToo hDueToo)
          exact ⟨congrArg Ozone.Event.reply hAnswer.1, hPart.box, hAnswer.2⟩
      | cancel hFree _ _ | deadline hFree _ _ _ | command hFree _ _ _ _ =>
          rw [hPendingToo] at hFree
          cases hFree
  | cancel hFree hWaiting hCancelled =>
      rw [hGoing] at hCancelled
      cases hCancelled
  | @deadline run hFree hRun hCancelled hDue =>
      have hFreeToo : t.ozone.pending = none := hPart.pending ▸ hFree
      cases hSecond with
      | reply hPending _ =>
          rw [hFreeToo] at hPending
          cases hPending
      | cancel _ _ hCancelledToo =>
          rw [hAlike.second.going] at hCancelledToo
          cases hCancelledToo
      | deadline _ _ _ _ => exact ⟨rfl, hPart.box, hPart.rows⟩
      | command _ _ _ hEarly _ =>
          have hLate := hEarly run (hActive ▸ hRun)
          have hNow := hPart.now
          omega
  | @command letter box hFree hWaiting hCancelled hEarly hTake =>
      have hFreeToo : t.ozone.pending = none := hPart.pending ▸ hFree
      cases hSecond with
      | reply hPending _ =>
          rw [hFreeToo] at hPending
          cases hPending
      | cancel _ _ hCancelledToo =>
          rw [hAlike.second.going] at hCancelledToo
          cases hCancelledToo
      | deadline _ hRun _ hDue =>
          have hLate := hEarly _ (hActive.symm ▸ hRun)
          have hNow := hPart.now
          omega
      | @command letterToo boxToo _ _ _ _ hTakeToo =>
          have hTaken := Mailbox.take_alike hPart.box hTake hTakeToo
          refine ⟨?_, hTaken.2, hPart.rows⟩
          show Ozone.Event.command letter.command 0 = Ozone.Event.command letterToo.command 0
          rw [hTaken.1]

theorem ozone_effects {event : Ozone.Event} {served : Monitor}
    (hEvent : s.ozoneEvent? = some (event, served)) :
    (Scene.mk s (.turn .ozone)).effects .ozone = (s.ozone.state.step s.now event).2 := by
  simp [Scene.effects, Scene.ozoneEvent?, hEvent]

theorem ozone_turn (hAlike : Alike .ozone ozonePart s t)
    (hCan : (s.turn? .ozone).isSome = true) (hCanToo : (t.turn? .ozone).isSome = true)
    (hMeets : (Scene.mk s (.turn .ozone)).Meets .ozone fates made)
    (hMeetsToo : (Scene.mk t (.turn .ozone)).Meets .ozone fates made) :
    StepAlike .ozone ozonePart ⟨s, .turn .ozone⟩ ⟨t, .turn .ozone⟩ := by
  rcases Option.isSome_iff_exists.mp hCan with ⟨next, hTurn⟩
  rcases Option.isSome_iff_exists.mp hCanToo with ⟨nextToo, hTurnToo⟩
  rcases ozoneTurn_cases hTurn with ⟨event, served, hEvent, rfl⟩
  rcases ozoneTurn_cases hTurnToo with ⟨other, servedToo, hOther, rfl⟩
  have hServes := ozoneEvent_serves hEvent
  have hServesToo := ozoneEvent_serves hOther
  have hServed := ozoneServes_alike hAlike hServes hServesToo hMeets hMeetsToo
  have hPart := ozonePart_eq.mp hAlike.part
  have hResult :
      Ozone.Controller.untold (s.ozone.state.step s.now event) =
        Ozone.Controller.untold (t.ozone.state.step t.now other) := by
    rw [← Ozone.Controller.anonymous_step (ozone_move hAlike.first.order hServes),
      ← Ozone.Controller.anonymous_step (ozone_move hAlike.second.order hServesToo),
      hPart.state, hPart.now, hServed.event]
  have hState := congrArg Prod.fst hResult
  have hEffects := congrArg Prod.snd hResult
  simp only [Ozone.Controller.untold] at hState hEffects
  have hEnded := congrArg Ozone.Controller.hasEnded hState
  rw [Ozone.Controller.anonymous_hasEnded, Ozone.Controller.anonymous_hasEnded] at hEnded
  have hPlaced := placed_fate hPart.now (ozone_effects hEvent) (ozone_effects hOther) hEffects
    hMeets hMeetsToo (ozoneServes_placed hServes) (ozoneServes_placed hServesToo)
  constructor
  · show ozonePart (s.happen (.turn .ozone)) = ozonePart (t.happen (.turn .ozone))
    rw [happen_turn hTurn, happen_turn hTurnToo, ozonePart_eq]
    have hBox := hServed.box
    have hRows := hServed.rows
    rcases ozoneServes_eq hServes with ⟨_, _, rfl⟩
    rcases ozoneServes_eq hServesToo with ⟨_, _, rfl⟩
    exact
      { now := by simpa using hPart.now
        state := by simpa using hState
        pending := by simpa using hPlaced
        box := by
          rw [handOzone_ozoneBox, handOzone_ozoneBox]
          dsimp only
          rw [hEnded]
          split
          · rfl
          · exact hBox
        rows := by simpa using hRows }
  · rw [ozone_effects hEvent, ozone_effects hOther]
    exact hEffects

/-!
## The line, and what arrives
-/

theorem ozone_line {line : Turn} (hAlike : Alike .ozone ozonePart s t)
    (hLine : some Turn.ozoneLine = some line) :
    ozonePart (s.happen (.turn line)) = ozonePart (t.happen (.turn line)) := by
  cases hLine
  have hPart := ozonePart_eq.mp hAlike.part
  have hLine (u : Monitor) : u.happen (.turn .ozoneLine) =
      { u with ozoneBox := u.ozoneBox.refill?.getD u.ozoneBox } := by
    simp only [happen, turn?, ozoneLineTurn?]
    cases u.ozoneBox.refill? <;> rfl
  rw [hLine, hLine, ozonePart_eq]
  exact ⟨hPart.now, hPart.state, hPart.pending,
    Mailbox.refill_alike hPart.box, hPart.rows⟩

theorem ozone_start (hAlike : Alike .ozone ozonePart s t) (hFresh : s.isFresh = true)
    (hFreshToo : t.isFresh = true) (hMeets : (Scene.mk s .start).Meets .ozone fates made)
    (hMeetsToo : (Scene.mk t .start).Meets .ozone fates made) :
    StepAlike .ozone ozonePart ⟨s, .start⟩ ⟨t, .start⟩ := by
  have hPart := ozonePart_eq.mp hAlike.part
  have hEffects {u : Monitor} (h : u.isFresh = true) :
      (Scene.mk u .start).effects .ozone = Ozone.Controller.start.2 := if_pos h
  have hPlaced := placed_fate hPart.now (hEffects hFresh) (hEffects hFreshToo) rfl hMeets
    hMeetsToo rfl rfl
  have hBegun {u : Monitor} (h : u.isFresh = true) :
      ozonePart u.start.2 =
        { now := u.now
          state := Ozone.Controller.start.1
          pending := u.placedLast Ozone.Controller.start.2
          box := u.ozoneBox.anonymous
          rows := u.outside.store.only .ozone } := by
    rw [start_fresh h]
    dsimp only
    split <;> rfl
  refine ⟨?_, by rw [hEffects hFresh, hEffects hFreshToo]⟩
  show ozonePart s.start.2 = ozonePart t.start.2
  rw [hBegun hFresh, hBegun hFreshToo, hPlaced, hPart.now, hPart.box, hPart.rows]

theorem ozone_send {command : Ozone.Command} (hAlike : Alike .ozone ozonePart s t) :
    ozonePart (s.send (.ozone command)).2 = ozonePart (t.send (.ozone command)).2 ∧
      forall h k, (Scene.mk s h).refusal? (.ozone command) =
        (Scene.mk t k).refusal? (.ozone command) := by
  have hPart := ozonePart_eq.mp hAlike.part
  have hLimit := congrArg Config.maxOzoneMinutes hAlike.config
  change s.config.maxOzoneMinutes = t.config.maxOzoneMinutes at hLimit
  simp only [Scene.refusal?, send, sendOzone, ← hLimit]
  cases command.check s.config.maxOzoneMinutes with
  | error fault => exact ⟨hAlike.part, fun _ _ => rfl⟩
  | ok =>
      dsimp only
      rcases Mailbox.send_alike hPart.box command s.nextTicket t.nextTicket with
        ⟨hFirst, hSecond⟩ | ⟨_, _, hFirst, hSecond, hBox⟩
      · rw [hFirst, hSecond]
        exact ⟨hAlike.part, fun _ _ => rfl⟩
      · rw [hFirst, hSecond]
        refine ⟨ozonePart_eq.mpr ?_, fun _ _ => rfl⟩
        exact ⟨hPart.now, hPart.state, hPart.pending, hBox, hPart.rows⟩

theorem ozone_unwinding : Unwinding .ozone ozonePart where
  same := ozonePart_same
  now := fun h => (ozonePart_eq.mp h).now
  able := fun hAlike hTurn => ozone_able hAlike hTurn
  lost := by
    intro first second hBefore hAfter
    have hFirst := ozonePart_eq.mp hBefore
    exact losses_alike hFirst.now hFirst.box (ozonePart_eq.mp hAfter).box
  turn := ozone_turn
  line := ozone_line
  start := ozone_start
  send := by
    intro s t order hAlike hSource
    cases order with
    | ozone command => exact ozone_send hAlike
    | target command => cases hSource
  wait := by
    intro s t now h
    have hPart := ozonePart_eq.mp h
    exact ozonePart_eq.mpr
      ⟨rfl, hPart.state, hPart.pending, hPart.box, hPart.rows⟩

end Ozone

end Monitor
end TubMonitor
