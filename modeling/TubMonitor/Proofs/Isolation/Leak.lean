import TubMonitor.Proofs.Isolation.Parts

/-!
# The leak loop by itself

It takes no commands, so nothing arrives for it but the start of all loops.
-/

namespace TubMonitor
namespace Monitor

section Leak

variable {s t : Monitor}

theorem leakPart_same {next : Monitor} (h : Same .leak s next) : leakPart next = leakPart s := by
  have hLoop : next.leak = s.leak := h.loop
  unfold leakPart
  rw [h.now, hLoop, h.rows]

/-- What two states have in common for the leak loop. -/
structure LeakAlike (s t : Monitor) : Prop where
  now : s.now = t.now
  state : s.leak.state = t.leak.state
  pending : s.leak.pending = t.leak.pending
  rows : s.outside.store.only .leak = t.outside.store.only .leak

theorem leakPart_eq : leakPart s = leakPart t ↔ LeakAlike s t := by
  simp only [leakPart, Part.mk.injEq, true_and]
  exact ⟨fun ⟨hNow, hState, hPending, hRows⟩ =>
      ⟨hNow, hState, hPending, hRows⟩,
    fun h => ⟨h.now, h.state, h.pending, h.rows⟩⟩

theorem leakTurn_isSome (s : Monitor) :
    (s.turn? .leak).isSome =
      match s.leak.pending with
      | some pending => decide (pending.due ≤ s.now)
      | none =>
          s.leak.state.ticker?.isSome && (s.isCancelled || s.isTickDue s.leak.state.ticker?) := by
  simp only [turn?, leakTurn?, Option.isSome_map, leakEvent?]
  cases hPending : s.leak.pending with
  | some pending =>
      simp only [Option.isSome_map, reply?]
      split <;> simp_all
  | none =>
      dsimp only
      cases s.leak.state.ticker? with
      | none => rfl
      | some ticker =>
          cases s.isCancelled with
          | true => rfl
          | false =>
              cases hDue : s.isTickDue (some ticker) <;> simp

theorem leak_able {turn : Turn} (hAlike : Alike .leak leakPart s t)
    (hTurn : turn = .leak ∨ none = some turn) :
    (s.turn? turn).isSome = (t.turn? turn).isSome := by
  have hPart := leakPart_eq.mp hAlike.part
  rcases hTurn with rfl | hLine
  · rw [leakTurn_isSome, leakTurn_isSome, isTickDue, isTickDue, hPart.pending, hPart.now,
      hPart.state, hAlike.first.going, hAlike.second.going]
  · cases hLine

/-!
## A step
-/

variable {fates : Nat -> Fate} {made : Nat}

theorem leakServes_alike {event other : Leak.Event} {served servedToo : Monitor}
    (hAlike : Alike .leak leakPart s t) (hFirst : LeakServes s event served)
    (hSecond : LeakServes t other servedToo)
    (hMeets : (Scene.mk s (.turn .leak)).Meets .leak fates made)
    (hMeetsToo : (Scene.mk t (.turn .leak)).Meets .leak fates made) :
    event = other ∧ served.outside.store.only .leak = servedToo.outside.store.only .leak := by
  have hPart := leakPart_eq.mp hAlike.part
  cases hFirst with
  | @reply pending hPending hDue =>
      have hPendingToo : t.leak.pending = some pending := hPart.pending ▸ hPending
      cases hSecond with
      | @reply other hOther hDueToo =>
          rw [hPendingToo, Option.some.injEq] at hOther
          subst hOther
          have hUnderWay : s.underWay? .leak = some pending := hPending
          have hAnswer := answer_fate hAlike.first.order hUnderWay hPart.now hPart.rows
            (hMeets.answered pending rfl hPending hDue)
            (hMeetsToo.answered pending rfl hPendingToo hDueToo)
          exact ⟨congrArg Leak.Event.reply hAnswer.1, hAnswer.2⟩
      | cancel hFree _ _ | tick hFree _ _ _ =>
          rw [hPendingToo] at hFree
          cases hFree
  | cancel hFree hTicker hCancelled =>
      rw [hAlike.first.going] at hCancelled
      cases hCancelled
  | tick hFree hTicker hCancelled hDue =>
      have hFreeToo : t.leak.pending = none := hPart.pending ▸ hFree
      cases hSecond with
      | reply hPending _ =>
          rw [hFreeToo] at hPending
          cases hPending
      | cancel _ _ hCancelledToo =>
          rw [hAlike.second.going] at hCancelledToo
          cases hCancelledToo
      | tick _ _ _ _ => exact ⟨rfl, hPart.rows⟩

theorem leak_effects {event : Leak.Event} {served : Monitor}
    (hEvent : s.leakEvent? = some (event, served)) :
    (Scene.mk s (.turn .leak)).effects .leak = (s.leak.state.step s.now event).2 := by
  simp [Scene.effects, Scene.leakEvent?, hEvent]

theorem leak_turn (hAlike : Alike .leak leakPart s t)
    (hCan : (s.turn? .leak).isSome = true) (hCanToo : (t.turn? .leak).isSome = true)
    (hMeets : (Scene.mk s (.turn .leak)).Meets .leak fates made)
    (hMeetsToo : (Scene.mk t (.turn .leak)).Meets .leak fates made) :
    StepAlike .leak leakPart ⟨s, .turn .leak⟩ ⟨t, .turn .leak⟩ := by
  rcases Option.isSome_iff_exists.mp hCan with ⟨next, hTurn⟩
  rcases Option.isSome_iff_exists.mp hCanToo with ⟨nextToo, hTurnToo⟩
  rcases leakTurn_cases hTurn with ⟨event, served, hEvent, rfl⟩
  rcases leakTurn_cases hTurnToo with ⟨other, servedToo, hOther, rfl⟩
  have hServes := leakEvent_serves hEvent
  have hServesToo := leakEvent_serves hOther
  rcases leakServes_alike hAlike hServes hServesToo hMeets hMeetsToo with ⟨rfl, hRows⟩
  have hPart := leakPart_eq.mp hAlike.part
  have hResult : s.leak.state.step s.now event = t.leak.state.step t.now event := by
    rw [hPart.now, hPart.state]
  have hEffects : (s.leak.state.step s.now event).2.map Effect.anonymous =
      (t.leak.state.step t.now event).2.map Effect.anonymous := by
    rw [hResult]
  have hPlaced := placed_fate hPart.now (leak_effects hEvent) (leak_effects hOther) hEffects
    hMeets hMeetsToo (leakServes_placed hServes) (leakServes_placed hServesToo)
  refine ⟨?_, by rw [leak_effects hEvent, leak_effects hOther, hEffects]⟩
  show leakPart (s.happen (.turn .leak)) = leakPart (t.happen (.turn .leak))
  rw [happen_turn hTurn, happen_turn hTurnToo, leakPart_eq]
  rcases leakServes_eq hServes with ⟨_, rfl⟩
  rcases leakServes_eq hServesToo with ⟨_, rfl⟩
  exact
    { now := by simpa using hPart.now
      state := by simpa using congrArg Prod.fst hResult
      pending := by simpa using hPlaced
      rows := by simpa using hRows }

/-!
## The beginning
-/

theorem leak_start (hAlike : Alike .leak leakPart s t) (hFresh : s.isFresh = true)
    (hFreshToo : t.isFresh = true) (hMeets : (Scene.mk s .start).Meets .leak fates made)
    (hMeetsToo : (Scene.mk t .start).Meets .leak fates made) :
    StepAlike .leak leakPart ⟨s, .start⟩ ⟨t, .start⟩ := by
  have hPart := leakPart_eq.mp hAlike.part
  have hPeriod := congrArg Config.leakPeriod hAlike.config
  change s.config.leakPeriod = t.config.leakPeriod at hPeriod
  have hEffects {u : Monitor} (h : u.isFresh = true) :
      (Scene.mk u .start).effects .leak = (Leak.Watch.start u.config.leakPeriod).2 := if_pos h
  have hSame : (Leak.Watch.start s.config.leakPeriod).2.map Effect.anonymous =
      (Leak.Watch.start t.config.leakPeriod).2.map Effect.anonymous := by
    rw [hPeriod]
  have hPlaced := placed_fate hPart.now (hEffects hFresh) (hEffects hFreshToo) hSame hMeets
    hMeetsToo rfl rfl
  have hBegun {u : Monitor} (h : u.isFresh = true) :
      leakPart u.start.2 =
        { now := u.now
          state := (Leak.Watch.start u.config.leakPeriod).1
          pending := u.placedLast (Leak.Watch.start u.config.leakPeriod).2
          box := .empty
          rows := u.outside.store.only .leak } := by
    rw [start_fresh h]
    dsimp only
    split <;> rfl
  refine ⟨?_, by rw [hEffects hFresh, hEffects hFreshToo, hSame]⟩
  show leakPart s.start.2 = leakPart t.start.2
  rw [hBegun hFresh, hBegun hFreshToo, hPlaced, hPeriod, hPart.now, hPart.rows]

theorem leak_unwinding : Unwinding .leak leakPart where
  same := leakPart_same
  now := fun h => (leakPart_eq.mp h).now
  able := fun hAlike hTurn => leak_able hAlike hTurn
  lost := fun _ _ => rfl
  turn := leak_turn
  line := fun _ hLine => by cases hLine
  start := leak_start
  send := by
    intro s t order hAlike hSource
    cases order <;> cases hSource
  wait := by
    intro s t now h
    have hPart := leakPart_eq.mp h
    exact leakPart_eq.mpr ⟨rfl, hPart.state, hPart.pending, hPart.rows⟩

end Leak

end Monitor
end TubMonitor
