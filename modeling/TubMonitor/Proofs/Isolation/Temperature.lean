import TubMonitor.Proofs.Isolation.Parts

/-!
# The temperature loop by itself

Without a period it is over as soon as it begins, and whatever waits for it is lost.
-/

namespace TubMonitor
namespace Monitor

section Temperature

variable {s t : Monitor}

theorem temperaturePart_same {next : Monitor} (h : Same .temperature s next) :
    temperaturePart next = temperaturePart s := by
  have hLoop : next.temperature = s.temperature ∧ next.targetBox = s.targetBox := h.loop
  unfold temperaturePart
  rw [h.now, hLoop.1, hLoop.2, h.rows]

/-- What two states have in common for the temperature loop. -/
structure TemperatureAlike (s t : Monitor) : Prop where
  now : s.now = t.now
  state : s.temperature.state = t.temperature.state
  pending : s.temperature.pending = t.temperature.pending
  box : s.targetBox.anonymous = t.targetBox.anonymous
  rows : s.outside.store.only .temperature = t.outside.store.only .temperature

theorem temperaturePart_eq : temperaturePart s = temperaturePart t ↔ TemperatureAlike s t := by
  simp only [temperaturePart, Part.mk.injEq]
  exact ⟨fun ⟨hNow, hState, hPending, hBox, hRows⟩ =>
      ⟨hNow, hState, hPending, hBox, hRows⟩,
    fun h => ⟨h.now, h.state, h.pending, h.box, h.rows⟩⟩

/-!
## Whether there is anything to do
-/

theorem temperatureTurn_isSome (s : Monitor) :
    (s.turn? .temperature).isSome =
      match s.temperature.pending with
      | some pending => decide (pending.due ≤ s.now)
      | none =>
          s.temperature.state.isWaiting &&
            (s.isCancelled || s.targetBox.slot.isSome ||
              s.isTickDue s.temperature.state.ticker?) := by
  simp only [turn?, temperatureTurn?, Option.isSome_map, temperatureEvent?]
  cases hPending : s.temperature.pending with
  | some pending =>
      simp only [Option.isSome_map, reply?]
      split <;> simp_all
  | none =>
      dsimp only
      cases s.temperature.state.isWaiting with
      | false => rfl
      | true =>
          cases s.isCancelled with
          | true => rfl
          | false =>
              cases hSlot : s.targetBox.slot with
              | some letter => simp [Mailbox.take?, hSlot]
              | none =>
                  cases hDue : s.isTickDue s.temperature.state.ticker? <;>
                    simp [Mailbox.take?, hSlot]

theorem temperature_able {turn : Turn} (hAlike : Alike .temperature temperaturePart s t)
    (hTurn : turn = .temperature ∨ some .targetLine = some turn) :
    (s.turn? turn).isSome = (t.turn? turn).isSome := by
  have hPart := temperaturePart_eq.mp hAlike.part
  rcases hTurn with rfl | hLine
  · rw [temperatureTurn_isSome, temperatureTurn_isSome, isTickDue, isTickDue, hPart.pending,
      hPart.now, hPart.state, Mailbox.slot_alike hPart.box, hAlike.first.going, hAlike.second.going]
  · cases hLine
    have hRefill := congrArg (fun m => m.refill?.isSome) hPart.box
    simp only [Mailbox.anonymous_refill, Option.isSome_map] at hRefill
    simpa [turn?, targetLineTurn?] using hRefill

/-!
## A step
-/

variable {fates : Nat -> Fate} {made : Nat}

structure TemperatureServed (first second : Monitor) (event other : Temperature.Event) :
    Prop where
  event : event.anonymous = other.anonymous
  box : first.targetBox.anonymous = second.targetBox.anonymous
  rows : first.outside.store.only .temperature = second.outside.store.only .temperature

theorem temperatureServes_alike {event other : Temperature.Event} {served servedToo : Monitor}
    (hAlike : Alike .temperature temperaturePart s t)
    (hFirst : TemperatureServes s event served) (hSecond : TemperatureServes t other servedToo)
    (hMeets : (Scene.mk s (.turn .temperature)).Meets .temperature fates made)
    (hMeetsToo : (Scene.mk t (.turn .temperature)).Meets .temperature fates made) :
    TemperatureServed served servedToo event other := by
  have hPart := temperaturePart_eq.mp hAlike.part
  have hSlot := Mailbox.slot_alike hPart.box
  cases hFirst with
  | @reply pending hPending hDue =>
      have hPendingToo : t.temperature.pending = some pending := hPart.pending ▸ hPending
      cases hSecond with
      | @reply other hOther hDueToo =>
          rw [hPendingToo, Option.some.injEq] at hOther
          subst hOther
          have hUnderWay : s.underWay? .temperature = some pending := hPending
          have hAnswer := answer_fate hAlike.first.order hUnderWay hPart.now hPart.rows
            (hMeets.answered pending rfl hPending hDue)
            (hMeetsToo.answered pending rfl hPendingToo hDueToo)
          exact ⟨congrArg Temperature.Event.reply hAnswer.1, hPart.box, hAnswer.2⟩
      | cancel hFree _ _ | command hFree _ _ _ | tick hFree _ _ _ _ _ =>
          rw [hPendingToo] at hFree
          cases hFree
  | cancel hFree hWaiting hCancelled =>
      rw [hAlike.first.going] at hCancelled
      cases hCancelled
  | @command letter box hFree hWaiting hCancelled hTake =>
      have hFreeToo : t.temperature.pending = none := hPart.pending ▸ hFree
      cases hSecond with
      | reply hPending _ =>
          rw [hFreeToo] at hPending
          cases hPending
      | cancel _ _ hCancelledToo =>
          rw [hAlike.second.going] at hCancelledToo
          cases hCancelledToo
      | @command letterToo boxToo _ _ _ hTakeToo =>
          have hTaken := Mailbox.take_alike hPart.box hTake hTakeToo
          refine ⟨?_, hTaken.2, hPart.rows⟩
          show Temperature.Event.command letter.command 0 =
            Temperature.Event.command letterToo.command 0
          rw [hTaken.1]
      | tick _ _ _ _ hEmpty _ =>
          rw [hEmpty] at hSlot
          simp [Mailbox.take?] at hTake
          simp [hTake.1] at hSlot
  | tick hFree hTicker hWaiting hCancelled hEmpty hDue =>
      have hFreeToo : t.temperature.pending = none := hPart.pending ▸ hFree
      cases hSecond with
      | reply hPending _ =>
          rw [hFreeToo] at hPending
          cases hPending
      | cancel _ _ hCancelledToo =>
          rw [hAlike.second.going] at hCancelledToo
          cases hCancelledToo
      | command _ _ _ hTakeToo =>
          rw [hEmpty] at hSlot
          simp [Mailbox.take?] at hTakeToo
          simp [hTakeToo.1] at hSlot
      | tick _ _ _ _ _ _ => exact ⟨rfl, hPart.box, hPart.rows⟩

theorem temperature_effects {event : Temperature.Event} {served : Monitor}
    (hEvent : s.temperatureEvent? = some (event, served)) :
    (Scene.mk s (.turn .temperature)).effects .temperature =
      (s.temperature.state.step s.now event).2 := by
  simp [Scene.effects, Scene.temperatureEvent?, hEvent]

theorem temperature_turn (hAlike : Alike .temperature temperaturePart s t)
    (hCan : (s.turn? .temperature).isSome = true)
    (hCanToo : (t.turn? .temperature).isSome = true)
    (hMeets : (Scene.mk s (.turn .temperature)).Meets .temperature fates made)
    (hMeetsToo : (Scene.mk t (.turn .temperature)).Meets .temperature fates made) :
    StepAlike .temperature temperaturePart ⟨s, .turn .temperature⟩ ⟨t, .turn .temperature⟩ := by
  rcases Option.isSome_iff_exists.mp hCan with ⟨next, hTurn⟩
  rcases Option.isSome_iff_exists.mp hCanToo with ⟨nextToo, hTurnToo⟩
  rcases temperatureTurn_cases hTurn with ⟨event, served, hEvent, rfl⟩
  rcases temperatureTurn_cases hTurnToo with ⟨other, servedToo, hOther, rfl⟩
  have hServes := temperatureEvent_serves hEvent
  have hServesToo := temperatureEvent_serves hOther
  have hServed := temperatureServes_alike hAlike hServes hServesToo hMeets hMeetsToo
  have hPart := temperaturePart_eq.mp hAlike.part
  have hResult :
      Temperature.Sampler.untold (s.temperature.state.step s.now event) =
        Temperature.Sampler.untold (t.temperature.state.step t.now other) := by
    rw [← Temperature.Sampler.anonymous_step (temperature_move hAlike.first.order hServes),
      ← Temperature.Sampler.anonymous_step (temperature_move hAlike.second.order hServesToo),
      hPart.state, hPart.now, hServed.event]
  have hState := congrArg Prod.fst hResult
  have hEffects := congrArg Prod.snd hResult
  simp only [Temperature.Sampler.untold] at hState hEffects
  have hPlaced := placed_fate hPart.now (temperature_effects hEvent) (temperature_effects hOther)
    hEffects hMeets hMeetsToo (temperatureServes_placed hServes)
    (temperatureServes_placed hServesToo)
  constructor
  · show temperaturePart (s.happen (.turn .temperature)) =
      temperaturePart (t.happen (.turn .temperature))
    rw [happen_turn hTurn, happen_turn hTurnToo, temperaturePart_eq]
    have hBox := hServed.box
    have hRows := hServed.rows
    rcases temperatureServes_eq hServes with ⟨_, _, rfl⟩
    rcases temperatureServes_eq hServesToo with ⟨_, _, rfl⟩
    exact
      { now := by simpa using hPart.now
        state := by simpa using hState
        pending := by simpa using hPlaced
        box := by
          rw [handTemperature_targetBox, handTemperature_targetBox]
          dsimp only
          rw [hState]
          split
          · rfl
          · exact hBox
        rows := by simpa using hRows }
  · rw [temperature_effects hEvent, temperature_effects hOther]
    exact hEffects

/-!
## The line, and what arrives
-/

theorem temperature_line {line : Turn} (hAlike : Alike .temperature temperaturePart s t)
    (hLine : some Turn.targetLine = some line) :
    temperaturePart (s.happen (.turn line)) = temperaturePart (t.happen (.turn line)) := by
  cases hLine
  have hPart := temperaturePart_eq.mp hAlike.part
  have hLine (u : Monitor) : u.happen (.turn .targetLine) =
      { u with targetBox := u.targetBox.refill?.getD u.targetBox } := by
    simp only [happen, turn?, targetLineTurn?]
    cases u.targetBox.refill? <;> rfl
  rw [hLine, hLine, temperaturePart_eq]
  exact ⟨hPart.now, hPart.state, hPart.pending,
    Mailbox.refill_alike hPart.box, hPart.rows⟩

theorem temperature_start (hAlike : Alike .temperature temperaturePart s t)
    (hFresh : s.isFresh = true) (hFreshToo : t.isFresh = true) :
    StepAlike .temperature temperaturePart ⟨s, .start⟩ ⟨t, .start⟩ := by
  have hPart := temperaturePart_eq.mp hAlike.part
  have hPeriod := congrArg Config.temperaturePeriod hAlike.config
  have hTolerance := congrArg Config.tolerance hAlike.config
  change s.config.temperaturePeriod = t.config.temperaturePeriod at hPeriod
  change s.config.tolerance = t.config.tolerance at hTolerance
  have hBegun {u : Monitor} (h : u.isFresh = true) :
      temperaturePart u.start.2 =
        { now := u.now
          state := .start u.config.temperaturePeriod u.config.tolerance u.now
          pending := none
          box :=
            if (Temperature.Sampler.start u.config.temperaturePeriod u.config.tolerance
                u.now).hasEnded then
              .closed
            else
              u.targetBox.anonymous
          rows := u.outside.store.only .temperature } := by
    rw [start_fresh h]
    dsimp only
    split <;> rfl
  refine ⟨?_, rfl⟩
  show temperaturePart s.start.2 = temperaturePart t.start.2
  rw [hBegun hFresh, hBegun hFreshToo, hPeriod, hTolerance, hPart.now, hPart.box, hPart.rows]

theorem temperature_send {command : Temperature.Command}
    (hAlike : Alike .temperature temperaturePart s t) :
    temperaturePart (s.send (.target command)).2 =
        temperaturePart (t.send (.target command)).2 ∧
      forall h k, (Scene.mk s h).refusal? (.target command) =
        (Scene.mk t k).refusal? (.target command) := by
  have hPart := temperaturePart_eq.mp hAlike.part
  simp only [Scene.refusal?, send, sendTarget]
  cases command.check with
  | error fault => exact ⟨hAlike.part, fun _ _ => rfl⟩
  | ok =>
      dsimp only
      rcases Mailbox.send_alike hPart.box command s.nextTicket t.nextTicket with
        ⟨hFirst, hSecond⟩ | ⟨_, _, hFirst, hSecond, hBox⟩
      · rw [hFirst, hSecond]
        exact ⟨hAlike.part, fun _ _ => rfl⟩
      · rw [hFirst, hSecond]
        refine ⟨temperaturePart_eq.mpr ?_, fun _ _ => rfl⟩
        exact ⟨hPart.now, hPart.state, hPart.pending, hBox, hPart.rows⟩

theorem temperature_unwinding : Unwinding .temperature temperaturePart where
  same := temperaturePart_same
  now := fun h => (temperaturePart_eq.mp h).now
  able := fun hAlike hTurn => temperature_able hAlike hTurn
  lost := by
    intro first second hBefore hAfter
    have hFirst := temperaturePart_eq.mp hBefore
    exact losses_alike hFirst.now hFirst.box (temperaturePart_eq.mp hAfter).box
  turn := temperature_turn
  line := temperature_line
  start := fun hAlike hFresh hFreshToo _ _ => temperature_start hAlike hFresh hFreshToo
  send := by
    intro s t order hAlike hSource
    cases order with
    | ozone command => cases hSource
    | target command => exact temperature_send hAlike
  wait := by
    intro s t now h
    have hPart := temperaturePart_eq.mp h
    exact temperaturePart_eq.mpr
      ⟨rfl, hPart.state, hPart.pending, hPart.box, hPart.rows⟩

end Temperature

end Monitor
end TubMonitor
