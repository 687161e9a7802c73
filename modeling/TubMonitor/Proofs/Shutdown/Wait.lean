import TubMonitor.Proofs.Shutdown.Winding

/-!
# The wait for the loops

The clock runs until every loop has ended, and it never runs out: the horizon of the
wait lies beyond the last of the calls and deliveries that can still follow one
another.
-/

namespace TubMonitor
namespace Monitor

/-!
## Loops at rest
-/

/-- Every loop has ended or has something under way that is not due yet. -/
def Resting (s : Monitor) : Prop :=
  forall name, 0 < s.turnsLeft name -> exists due, s.loopDue name = some due ∧ s.now < due

theorem rests_of_idle {s : Monitor} {name : LoopName} (hWinding : Winding s)
    (hIdle : s.turn? name.turn = none) (hLeft : 0 < s.turnsLeft name) :
    exists due, s.loopDue name = some due ∧ s.now < due := by
  rcases hWinding with ⟨hOrder, hStarted, hCancelled⟩
  cases name with
  | ozone =>
      simp only [LoopName.turn, turn?, ozoneTurn?, Option.map_eq_none_iff] at hIdle
      unfold ozoneEvent? at hIdle
      cases hPending : s.ozone.pending with
      | some pending =>
          simp only [hPending, Option.map_eq_none_iff, reply?] at hIdle
          split at hIdle
          · cases hIdle
          · next hLater => exact ⟨pending.due, by simp [loopDue, pendingDue, hPending], by omega⟩
      | none =>
          have hCall := hOrder.ozone.call
          rw [hPending, Option.map_none] at hCall
          have hWaiting := Ozone.Controller.isWaiting_of_turnsLeft hOrder.ozone.filed
            hCall.symm hLeft
          simp [hPending, hWaiting, hCancelled] at hIdle
  | leak =>
      simp only [LoopName.turn, turn?, leakTurn?, Option.map_eq_none_iff] at hIdle
      unfold leakEvent? at hIdle
      cases hPending : s.leak.pending with
      | some pending =>
          simp only [hPending, Option.map_eq_none_iff, reply?] at hIdle
          split at hIdle
          · cases hIdle
          · next hLater => exact ⟨pending.due, by simp [loopDue, pendingDue, hPending], by omega⟩
      | none =>
          have hExpects := hOrder.leak.expects
          rw [hPending, Option.map_none] at hExpects
          rcases Leak.Watch.ticker?_of_turnsLeft hExpects hLeft with ⟨ticker, hTicker⟩
          simp [hPending, hTicker, hCancelled] at hIdle
  | temperature =>
      simp only [LoopName.turn, turn?, temperatureTurn?, Option.map_eq_none_iff] at hIdle
      unfold temperatureEvent? at hIdle
      cases hPending : s.temperature.pending with
      | some pending =>
          simp only [hPending, Option.map_eq_none_iff, reply?] at hIdle
          split at hIdle
          · cases hIdle
          · next hLater => exact ⟨pending.due, by simp [loopDue, pendingDue, hPending], by omega⟩
      | none =>
          have hExpects := hOrder.temperature.expects
          rw [hPending, Option.map_none] at hExpects
          have hWaiting := Temperature.Sampler.isWaiting_of_turnsLeft hExpects hLeft
          simp [hPending, hWaiting, hCancelled] at hIdle
  | notification =>
      have hRunning : s.notices.ended = false := by
        cases hEnded : s.notices.ended with
        | false => rfl
        | true => simp [turnsLeft, Notice.Dispatcher.turnsLeft, hEnded] at hLeft
      simp only [LoopName.turn, turn?, noticesTurn?, hStarted, hRunning] at hIdle
      cases hDelivering : s.notices.delivering with
      | some message =>
          simp only [hDelivering] at hIdle
          refine ⟨s.deliveryDue, by simp [loopDue, noticeDue, hDelivering], ?_⟩
          by_contra hDue
          simp [Nat.le_of_not_lt hDue] at hIdle
      | none => simp [hDelivering, hCancelled] at hIdle

theorem resting_of_idle {s : Monitor} (hWinding : Winding s)
    (hIdle : forall name : LoopName, s.turn? name.turn = none) : Resting s :=
  fun name hLeft => rests_of_idle hWinding (hIdle name) hLeft

/-- Mailboxes and console have nothing to do with the turns of the loops. -/
theorem aside_winds {s next : Monitor} {turn : Turn} (h : s.turn? turn = some next)
    (hAside : forall name : LoopName, turn ≠ name.turn) (name : LoopName) :
    next.turnsLeft name = s.turnsLeft name ∧ next.loopDue name = s.loopDue name := by
  cases turn with
  | ozone => exact absurd rfl (hAside .ozone)
  | leak => exact absurd rfl (hAside .leak)
  | temperature => exact absurd rfl (hAside .temperature)
  | notices => exact absurd rfl (hAside .notification)
  | ozoneLine =>
      rcases ozoneLineTurn_cases h with ⟨box, _, rfl⟩
      cases name <;> exact ⟨rfl, rfl⟩
  | targetLine =>
      rcases targetLineTurn_cases h with ⟨box, _, rfl⟩
      cases name <;> exact ⟨rfl, rfl⟩
  | console =>
      rcases consoleTurn_cases h with ⟨_, _, _, _, _, hConsole, hEvent, _, hActs⟩
      rcases consoleEvent_outside hConsole hEvent with ⟨outside, rfl, _⟩
      cases hActs with
      | sent hSent =>
          rcases (send_ok hSent).2 with ⟨_, _, _, _, _, rfl⟩ | ⟨_, _, _, _, _, rfl⟩
          all_goals cases name <;> exact ⟨rfl, rfl⟩
      | _ => cases name <;> exact ⟨rfl, rfl⟩

theorem turn_winding {s next : Monitor} {turn : Turn} (hWinding : Winding s)
    (h : s.turn? turn = some next) : Winding next := by
  have hSteady := turn_steady h
  have hNext : s.happen (.turn turn) = next := by
    rw [happen, h, Option.getD_some]
  exact
    { order := hNext ▸ inOrder_happen hWinding.order (.turn turn)
      isStarted := hSteady.isStarted.trans hWinding.isStarted
      isCancelled := hSteady.isCancelled.trans hWinding.isCancelled }

/-!
## Settling
-/

def allTurnsLeft (s : Monitor) : Nat :=
  s.turnsLeft .ozone + s.turnsLeft .leak + s.turnsLeft .temperature + s.turnsLeft .notification

theorem allTurnsLeft_le (s : Monitor) : s.allTurnsLeft ≤ s.patience := by
  have hOzone := Ozone.Controller.turnsLeft_le s.ozone.state
  have hLeak := Leak.Watch.turnsLeft_le s.leak.state
  have hTemperature := Temperature.Sampler.turnsLeft_le s.temperature.state
  have hNotices := Notice.Dispatcher.turnsLeft_le s.notices
  simp only [allTurnsLeft, turnsLeft, patience]
  omega

theorem winds_fewer {s next : Monitor} {name : LoopName} (h : Winds s name next) :
    next.allTurnsLeft < s.allTurnsLeft := by
  have hFewer := h.fewer
  have hOthers := fun other hOther => (h.others other hOther).1
  cases name with
  | ozone =>
      simp only [allTurnsLeft, hOthers .leak (by simp), hOthers .temperature (by simp),
        hOthers .notification (by simp)]
      omega
  | leak =>
      simp only [allTurnsLeft, hOthers .ozone (by simp), hOthers .temperature (by simp),
        hOthers .notification (by simp)]
      omega
  | temperature =>
      simp only [allTurnsLeft, hOthers .ozone (by simp), hOthers .leak (by simp),
        hOthers .notification (by simp)]
      omega
  | notification =>
      simp only [allTurnsLeft, hOthers .ozone (by simp), hOthers .leak (by simp),
        hOthers .temperature (by simp)]
      omega

theorem resting_idle {s : Monitor} (hWinding : Winding s) (hResting : Resting s)
    (name : LoopName) : s.turn? name.turn = none := by
  cases hTurn : s.turn? name.turn with
  | none => rfl
  | some next =>
      have hWinds := turn_winds hWinding hTurn
      have hLeft := Nat.lt_of_le_of_lt (Nat.zero_le _) hWinds.fewer
      rcases hResting name hLeft with ⟨due, hDue, hLater⟩
      exact absurd (hWinds.ready due hDue) (Nat.not_le_of_lt hLater)

theorem aside_of_idle {s next : Monitor} {turn : Turn} (h : s.turn? turn = some next)
    (hIdle : forall name : LoopName, s.turn? name.turn = none) (name : LoopName) :
    turn ≠ name.turn := by
  intro hSame
  rw [hSame, hIdle name] at h
  cases h

theorem aside_resting {s next : Monitor} {turn : Turn} (hResting : Resting s)
    (h : s.turn? turn = some next) (hIdle : forall name : LoopName, s.turn? name.turn = none) :
    Resting next := by
  intro name hLeft
  have hSame := aside_winds h (aside_of_idle h hIdle) name
  rw [hSame.1] at hLeft
  rw [hSame.2, (turn_steady h).now]
  exact hResting name hLeft

theorem settleWithin_keeps_rest {turns : Nat} {s : Monitor} (hWinding : Winding s)
    (hResting : Resting s) : Resting (settleWithin turns s) := by
  induction turns generalizing s with
  | zero => exact hResting
  | succ turns ih =>
      rw [settleWithin]
      split
      · next next hMove =>
          rcases move?_turn hMove with ⟨turn, hTurn⟩
          exact ih (turn_winding hWinding hTurn)
            (aside_resting hResting hTurn (resting_idle hWinding hResting))
      · exact hResting

theorem settleWithin_rests {turns : Nat} {s : Monitor} (hWinding : Winding s)
    (hEnough : s.allTurnsLeft ≤ turns) : Resting (settleWithin turns s) := by
  induction turns generalizing s with
  | zero =>
      intro name hLeft
      have hNone : s.turnsLeft name = 0 := by
        simp only [allTurnsLeft] at hEnough
        cases name <;> omega
      rw [settleWithin, hNone] at hLeft
      cases hLeft
  | succ turns ih =>
      rw [settleWithin]
      split
      · next next hMove =>
          rcases move?_cases hMove with ⟨name, hTurn⟩ | ⟨hIdle, turn, hTurn⟩
          · have hFewer := winds_fewer (turn_winds hWinding hTurn)
            exact ih (turn_winding hWinding hTurn) (by omega)
          · have hResting := resting_of_idle hWinding hIdle
            exact settleWithin_keeps_rest (turn_winding hWinding hTurn)
              (aside_resting hResting hTurn hIdle)
      · next hQuiet =>
          exact resting_of_idle hWinding (fun name => move?_eq_none.mp hQuiet name.turn)

/-!
## In time

What a loop has under way and the turns that it has left are done by the target, even
if everything takes as long as it can.
-/

def InTime (target : Nat) (s : Monitor) : Prop :=
  forall name, 0 < s.turnsLeft name ->
    max s.now ((s.loopDue name).getD 0) + s.turnsLeft name * s.pace ≤ target

theorem steady_pace {s next : Monitor} (h : Steady s next) : next.pace = s.pace := by
  simp only [pace, sinkDelay, h.conditions, h.sink]

theorem loop_inTime {target : Nat} {s next : Monitor} {name : LoopName}
    (hInTime : InTime target s) (hSteady : Steady s next) (hWinds : Winds s name next) :
    InTime target next := by
  intro other hLeft
  rw [hSteady.now, steady_pace hSteady]
  by_cases hSame : other = name
  · subst hSame
    have hFewer := hWinds.fewer
    have hBefore := hInTime other (Nat.lt_of_le_of_lt (Nat.zero_le _) hFewer)
    have hSpent : (next.turnsLeft other + 1) * s.pace ≤ s.turnsLeft other * s.pace :=
      Nat.mul_le_mul_right s.pace hFewer
    have hSoon : (next.loopDue other).getD 0 ≤ s.now + s.pace := by
      cases hDue : next.loopDue other with
      | none => exact Nat.zero_le _
      | some due => exact hWinds.soon due hDue
    rw [Nat.add_mul, Nat.one_mul] at hSpent
    omega
  · have hKept := hWinds.others other hSame
    rw [hKept.1, hKept.2]
    rw [hKept.1] at hLeft
    exact hInTime other hLeft

theorem aside_inTime {target : Nat} {s next : Monitor} {turn : Turn}
    (hInTime : InTime target s) (h : s.turn? turn = some next)
    (hAside : forall name : LoopName, turn ≠ name.turn) : InTime target next := by
  intro name hLeft
  have hSteady := turn_steady h
  have hSame := aside_winds h hAside name
  rw [hSame.1] at hLeft
  rw [hSteady.now, steady_pace hSteady, hSame.1, hSame.2]
  exact hInTime name hLeft

theorem settleWithin_inTime {target turns : Nat} {s : Monitor} (hWinding : Winding s)
    (hInTime : InTime target s) :
    Winding (settleWithin turns s) ∧ InTime target (settleWithin turns s) := by
  induction turns generalizing s with
  | zero => exact ⟨hWinding, hInTime⟩
  | succ turns ih =>
      rw [settleWithin]
      split
      · next next hMove =>
          rcases move?_cases hMove with ⟨name, hTurn⟩ | ⟨hIdle, turn, hTurn⟩
          · exact ih (turn_winding hWinding hTurn)
              (loop_inTime hInTime (turn_steady hTurn) (turn_winds hWinding hTurn))
          · exact ih (turn_winding hWinding hTurn)
              (aside_inTime hInTime hTurn (aside_of_idle hTurn hIdle))
      · exact ⟨hWinding, hInTime⟩

/-!
## The next moment comes in time
-/

theorem mem_dues {s : Monitor} {name : LoopName} {due : Nat} (h : s.loopDue name = some due) :
    due ∈ s.dues := by
  unfold dues
  rw [List.mem_filterMap]
  refine ⟨some due, ?_, rfl⟩
  rw [← h]
  cases name <;> simp [loopDue]

theorem over_of_turnsLeft {s : Monitor} (hWinding : Winding s)
    (hNone : forall name, s.turnsLeft name = 0) : s.isOver = true := by
  rcases hWinding with ⟨hOrder, hStarted, _⟩
  have hBegun : ¬ s.isStarted = false := by simp [hStarted]
  rw [isOver_iff]
  intro _
  refine ⟨?_, ?_, ?_, ?_⟩
  · exact Ozone.Controller.hasEnded_of_turnsLeft (mt hOrder.ozone.begun.mp hBegun) (hNone .ozone)
  · exact Leak.Watch.hasEnded_of_turnsLeft (mt hOrder.leak.begun.mp hBegun) (hNone .leak)
  · exact Temperature.Sampler.hasEnded_of_turnsLeft (mt hOrder.temperature.begun.mp hBegun)
      (hNone .temperature)
  · have hNotices : s.notices.turnsLeft = 0 := hNone .notification
    unfold Notice.Dispatcher.turnsLeft at hNotices
    split at hNotices
    · assumption
    · split at hNotices <;> cases hNotices

theorem nextDue_resting {target : Nat} {s : Monitor} (hWinding : Winding s)
    (hResting : Resting s) (hInTime : InTime target s) (hNot : ¬ s.isOver = true) :
    exists due, s.nextDue? = some due ∧ s.now < due ∧ due ≤ target ∧
      forall name, 0 < s.turnsLeft name ->
        exists later, s.loopDue name = some later ∧ due ≤ later := by
  have hSome : exists name, 0 < s.turnsLeft name := by
    by_contra hNone
    refine hNot (over_of_turnsLeft hWinding (fun name => ?_))
    by_contra hLeft
    exact hNone ⟨name, Nat.pos_of_ne_zero hLeft⟩
  have hMem (name : LoopName) (due : Nat) (hDue : s.loopDue name = some due)
      (hLater : s.now < due) : due ∈ s.dues.filter fun due => s.now < due :=
    List.mem_filter.mpr ⟨mem_dues hDue, by simpa using hLater⟩
  rcases hSome with ⟨name, hLeft⟩
  rcases hResting name hLeft with ⟨later, hLoop, hLater⟩
  cases hNext : s.nextDue? with
  | none =>
      have hEmpty := List.min?_eq_none_iff.mp hNext
      have hIn := hMem name later hLoop hLater
      rw [hEmpty] at hIn
      cases hIn
  | some due =>
      have hLeast := List.min?_eq_some_iff.mp hNext
      have hFound := (List.mem_filter.mp hLeast.1).2
      have hFirst := hLeast.2 later (hMem name later hLoop hLater)
      have hBound := hInTime name hLeft
      rw [hLoop, Option.getD_some] at hBound
      refine ⟨due, rfl, by simpa using hFound, by omega, ?_⟩
      intro other hOther
      rcases hResting other hOther with ⟨otherDue, hOtherLoop, hOtherLater⟩
      exact ⟨otherDue, hOtherLoop, hLeast.2 otherDue (hMem other otherDue hOtherLoop hOtherLater)⟩

theorem waited_inTime {target due : Nat} {s : Monitor} (hInTime : InTime target s)
    (hLater : s.now < due)
    (hNext : forall name, 0 < s.turnsLeft name ->
      exists later, s.loopDue name = some later ∧ due ≤ later) :
    InTime target { s with now := due } := by
  intro name hLeft
  have hName (now : Nat) : ({ s with now := now } : Monitor).turnsLeft name = s.turnsLeft name ∧
      ({ s with now := now } : Monitor).loopDue name = s.loopDue name := by
    cases name <;> exact ⟨rfl, rfl⟩
  rw [(hName due).1] at hLeft
  rw [(hName due).1, (hName due).2]
  have hBefore := hInTime name hLeft
  rcases hNext name hLeft with ⟨later, hLoop, hDue⟩
  rw [hLoop, Option.getD_some] at hBefore ⊢
  show max due later + s.turnsLeft name * s.pace ≤ target
  omega

theorem waited_winding {s : Monitor} (hWinding : Winding s) (now : Nat) :
    Winding { s with now := now } where
  order := ⟨hWinding.order.ozone, hWinding.order.leak, hWinding.order.temperature,
    hWinding.order.console⟩
  isStarted := hWinding.isStarted
  isCancelled := hWinding.isCancelled

theorem settle_goesOn {target : Nat} {s : Monitor} (hWinding : Winding s)
    (hInTime : InTime target s) (hNot : ¬ s.settle.isOver = true) :
    Winding s.settle ∧
      exists due, s.settle.nextDue? = some due ∧ s.now < due ∧ due ≤ target ∧
        InTime target { s.settle with now := due } := by
  have hSettled : Winding s.settle ∧ InTime target s.settle := settleWithin_inTime hWinding hInTime
  have hResting : Resting s.settle := settleWithin_rests hWinding (allTurnsLeft_le s)
  rcases nextDue_resting hSettled.1 hResting hSettled.2 hNot with
    ⟨due, hDue, hLater, hTarget, hNext⟩
  have hWaited := waited_inTime hSettled.2 hLater hNext
  rw [(settle_steady s).now] at hLater
  exact ⟨hSettled.1, due, hDue, hLater, hTarget, hWaited⟩

theorem run_isOver {target now : Nat} {s : Monitor} (hWinding : Winding s)
    (hInTime : InTime target { s with now := now }) :
    (s.run isOver target now).isOver = true := by
  induction now, s using run.induct isOver target with
  | case1 now s settled hOver => rwa [run, if_pos hOver]
  | case2 now s settled hNot hNothing =>
      rcases settle_goesOn (waited_winding hWinding now) hInTime hNot with ⟨_, due, hDue, _⟩
      rw [hNothing] at hDue
      cases hDue
  | case3 now s settled hNot due hDue hLater ih =>
      rcases settle_goesOn (waited_winding hWinding now) hInTime hNot with
        ⟨hNext, next, hSame, _, _, hWaited⟩
      rw [hDue] at hSame
      cases hSame
      rw [run, if_neg hNot, hDue]
      dsimp only
      rw [if_pos hLater]
      exact ih hNext hWaited
  | case4 now s settled hNot due hDue hTooLate =>
      rcases settle_goesOn (waited_winding hWinding now) hInTime hNot with
        ⟨_, next, hSame, hAfter, hTarget, _⟩
      rw [hDue] at hSame
      cases hSame
      exact absurd ⟨hAfter, hTarget⟩ hTooLate

/-!
## Cancelling and waiting
-/

theorem horizon_inTime {more : Nat} {s : Monitor}
    (hEnough : forall name, s.turnsLeft name ≤ more) : InTime (s.horizon more) s := by
  intro name hLeft
  have hTurns : s.turnsLeft name * s.pace ≤ more * s.pace :=
    Nat.mul_le_mul_right s.pace (hEnough name)
  have hDue : max s.now ((s.loopDue name).getD 0) + more * s.pace ≤ s.horizon more := by
    refine Nat.add_le_add_right (Nat.max_le.mpr ⟨?_, ?_⟩) _
    · exact le_foldl_max List.mem_cons_self
    · cases hLoop : s.loopDue name with
      | none => exact Nat.zero_le _
      | some due =>
          refine le_foldl_max (List.mem_cons_of_mem _ ?_)
          rw [List.mem_filterMap]
          refine ⟨some due, ?_, rfl⟩
          rw [← hLoop]
          cases name <;> simp [loopDue]
  omega

/-- The wait ends with every loop, by turns and the passing of time alone. -/
theorem cancelAndWait_joins {s : Monitor} (hOrder : InOrder s) :
    exists waited, Passes s.cancel waited ∧ waited.isOver = true ∧
      s.cancelAndWait = waited.join := by
  refine ⟨_, run_passes isOver _ _ s.cancel (Nat.le_refl _), ?_, rfl⟩
  cases hStarted : s.isStarted with
  | false =>
      have hOver : (({ s.cancel with now := s.cancel.now } : Monitor).settle).isOver = true := by
        rw [isOver_iff, (settle_steady _).isStarted]
        intro hIs
        simp [hStarted] at hIs
      rwa [run, if_pos hOver]
  | true =>
      have hWinding : Winding s.cancel :=
        { order := inOrder_happen hOrder .cancel
          isStarted := by simpa using hStarted
          isCancelled := by simp }
      refine run_isOver hWinding (horizon_inTime ?_)
      intro name
      have hOzone := Ozone.Controller.turnsLeft_le s.cancel.ozone.state
      have hLeak := Leak.Watch.turnsLeft_le s.cancel.leak.state
      have hTemperature := Temperature.Sampler.turnsLeft_le s.cancel.temperature.state
      have hNotices := Notice.Dispatcher.turnsLeft_le s.cancel.notices
      cases name <;> simp only [turnsLeft, callsPerEvent] <;> omega

end Monitor
end TubMonitor
