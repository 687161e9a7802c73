import TubMonitor.Proofs.Ozone.Courses
import TubMonitor.Proofs.Polling.Strides

/-!
# The law of polling

Whatever a tick calls for and however long that takes, ticks never overlap and never come in a
burst; and none is put off, as long as time does not pass over those that are due.
-/

namespace TubMonitor
namespace Monitor

open Time (Paced Ticker)

/-!
## Promptness
-/

/-- As long as nobody cancels, time does not pass over an instant at which the loop waits for a
tick that is due. -/
def Scene.Prompt (loop : Poller) (scene : Scene) : Prop :=
  scene.before.isCancelled = false ->
    forall moment, scene.happening = .wait moment ->
      forall ticker, loop.ticker? scene.before = some ticker ->
        forall now, scene.before.now ≤ now -> now < moment -> ticker.isDue now = false

def Prompt (loop : Poller) (past : List Scene) : Prop :=
  forall scene, scene ∈ past -> scene.Prompt loop

theorem prompt_concat {loop : Poller} {past : List Scene} {scene : Scene}
    (h : Prompt loop (past ++ [scene])) : Prompt loop past ∧ scene.Prompt loop :=
  ⟨fun other hMem => h other (List.mem_append_left _ hMem),
    h scene (List.mem_append_right _ (List.mem_singleton_self _))⟩

section Promptness

variable {loop : Poller} {s : Monitor} {ticker : Ticker}

theorem prompt_wait {moment : Nat} (hPrompt : (Scene.mk s (.wait moment)).Prompt loop)
    (hCancelled : s.isCancelled = false) (hTicker : loop.ticker? s = some ticker) :
    moment ≤ max s.now ticker.due := by
  by_contra hLate
  have hMissed := hPrompt hCancelled moment rfl ticker hTicker (max s.now ticker.due)
    (Nat.le_max_left _ _) (Nat.lt_of_not_le hLate)
  rw [Bool.eq_false_iff, ne_eq, Ticker.isDue_iff] at hMissed
  exact hMissed (Nat.le_max_right _ _)

theorem prompt_of_le {scene : Scene}
    (h : scene.before.isCancelled = false -> forall moment, scene.happening = .wait moment ->
      forall ticker, loop.ticker? scene.before = some ticker ->
        moment ≤ max scene.before.now ticker.due) : scene.Prompt loop := by
  intro hCancelled moment hWait ticker hTicker now hPast hEarly
  have hInTime := h hCancelled moment hWait ticker hTicker
  rw [Bool.eq_false_iff, ne_eq, Ticker.isDue_iff]
  omega

def Scene.isPrompt (loop : Poller) (scene : Scene) : Bool :=
  match scene.happening with
  | .wait moment =>
      scene.before.isCancelled ||
        (loop.ticker? scene.before).all fun ticker => moment ≤ max scene.before.now ticker.due
  | _ => true

theorem prompt_of_isPrompt {scene : Scene} (h : scene.isPrompt loop = true) :
    scene.Prompt loop := by
  apply prompt_of_le
  intro hCancelled moment hWait ticker hTicker
  simpa [Scene.isPrompt, hWait, hCancelled, hTicker] using h

theorem due_turn (hOrder : InOrder s) (hCancelled : s.isCancelled = false)
    (hTicker : loop.ticker? s = some ticker) (hDue : ticker.isDue s.now = true) :
    s.turn? loop.turn ≠ none := by
  cases loop with
  | leak =>
      have hTicker : s.leak.state.ticker? = some ticker := hTicker
      have hFree := (Leak.Watch.expects_waiting hOrder.leak.expects
        (Leak.Watch.ticker?_eq_some.mp hTicker).1).1
      rw [Option.map_eq_none_iff] at hFree
      simp [Poller.turn, turn?, leakTurn?, leakEvent?, hFree, hTicker, hCancelled, isTickDue,
        hDue]
  | temperature =>
      have hTicker : s.temperature.state.ticker? = some ticker := hTicker
      have hPhase := (Temperature.Sampler.ticker?_eq_some.mp hTicker).1
      have hWaiting := Temperature.Sampler.isWaiting_iff.mpr hPhase
      have hFree :=
        (Temperature.Sampler.expects_waiting hOrder.temperature.expects hPhase).1
      rw [Option.map_eq_none_iff] at hFree
      -- A command in the slot is served first.
      cases hTake : s.targetBox.take? <;>
        simp [Poller.turn, turn?, temperatureTurn?, temperatureEvent?, hFree, hTicker, hWaiting,
          hCancelled, hTake, isTickDue, hDue]

/-- The clock does not pass over a tick: it waits until nothing can be done and then no longer
than for the next thing that is due. -/
theorem clock_prompt {moment : Nat} (hOrder : InOrder s) (hQuiet : s.isQuiet = true)
    (hNext : forall due, s.nextDue? = some due -> moment ≤ due) :
    (Scene.mk s (.wait moment)).Prompt loop := by
  apply prompt_of_le
  intro hCancelled _ hWait ticker hTicker
  cases hWait
  have hNone : s.move? = none := by simpa [isQuiet] using hQuiet
  have hLater : s.now < ticker.due := by
    by_contra hDue
    exact due_turn hOrder hCancelled hTicker (Ticker.isDue_iff.mpr (Nat.le_of_not_lt hDue))
      (move?_eq_none.mp hNone loop.turn)
  have hMem : ticker.due ∈ s.dues.filter fun due => s.now < due := by
    refine List.mem_filter.mpr ⟨?_, by simpa using hLater⟩
    cases loop with
    | leak => simp [dues, show s.leak.state.ticker? = some ticker from hTicker]
    | temperature => simp [dues, show s.temperature.state.ticker? = some ticker from hTicker]
  cases hDue : s.nextDue? with
  | none =>
      rw [List.min?_eq_none_iff.mp hDue] at hMem
      cases hMem
  | some due =>
      have hFirst := (List.min?_eq_some_iff.mp hDue).2 ticker.due hMem
      have hMoment := hNext due hDue
      show moment ≤ max s.now ticker.due
      omega

end Promptness

/-!
## The account of a loop
-/

/-- The loop has been told its period, and its ticks are those of a ticker. -/
structure Polls (loop : Poller) (past : List Scene) (s : Monitor) : Prop where
  told : LeakTold s
  paced : Paced (loop.period s.config) (Prompt loop past) (s.isCancelled = false)
    (ticks loop past) (ends loop past) s.now (loop.gait s)

section

variable {loop : Poller} {past : List Scene} {s : Monitor}

theorem awake_before {h : Happening} (hAwake : (s.happen h).isCancelled = false) :
    s.isCancelled = false := by
  cases hOld : s.isCancelled with
  | false => rfl
  | true => exact absurd (isCancelled_happen hOld h) (by simp [hAwake])

theorem polls_happen (hOrder : InOrder s) (hPolls : Polls loop past s) (h : Happening) :
    Polls loop (past ++ [⟨s, h⟩]) (s.happen h) := by
  refine ⟨leakTold_happen hOrder hPolls.told h, ?_⟩
  have hStride := strides_happen hOrder hPolls.told loop h
  have hPaced := Time.paced_stride hPolls.paced hStride
    (fun hPrompt : Prompt loop (past ++ [⟨s, h⟩]) => (prompt_concat hPrompt).1)
    (fun hAwake : (s.happen h).isCancelled = false => awake_before hAwake)
  rw [config_happen, ticks, ends, momentsOf_concat, momentsOf_concat]
  refine Time.paced_wait hPaced (now_happen s h) id id ?_
  intro hPrompt hAwake ticker hGait
  by_cases hWait : exists moment, h = .wait moment
  · rcases hWait with ⟨moment, rfl⟩
    have hTicker : loop.ticker? s = some ticker := by
      rw [← Poller.gait_waiting, ← hGait]
      cases loop <;> rfl
    have hInTime := prompt_wait (prompt_concat hPrompt).2 (awake_before hAwake) hTicker
    exact Nat.max_le.mpr ⟨Nat.le_max_left _ _, hInTime⟩
  · rw [now_unless_wait fun moment hSame => hWait ⟨moment, hSame⟩]
    exact Nat.le_max_left _ _

end

theorem polls_after (loop : Poller) (config : Config) (now : Nat) (outside : Outside)
    (sink : Option Notice.Sink) (hs : List Happening) :
    Polls loop ((assemble config now outside sink).scenes hs)
      ((assemble config now outside sink).after hs) := by
  have hStart : Polls loop [] (assemble config now outside sink) := by
    refine ⟨fun hBegun => absurd rfl hBegun, Time.spaced_nil _ _, ?_⟩
    cases loop <;> exact ⟨rfl, rfl⟩
  refine scenes_invariant (inOrder_assemble config now outside sink) (fun _ => True)
    (fun past s => Polls loop past s) hStart ?_ hs (fun _ _ => trivial)
  intro past before h hOrder _ hPolls
  exact polls_happen hOrder hPolls h

/-!
## The law
-/

section

variable {loop : Poller} {past : List Scene} {s : Monitor}

theorem polls_lengths (hPolls : Polls loop past s) :
    (ends loop past).length ≤ (ticks loop past).length ∧
      (ticks loop past).length ≤ (ends loop past).length + 1 := by
  have hFits := hPolls.paced.fits
  generalize loop.gait s = gait at hFits
  cases gait with
  | unbegun => simp [hFits.1, hFits.2]
  | waiting ticker =>
      have hPaired := Time.Poised.paired hFits
      omega
  | busy ticker =>
      have hPaired := Time.Engaged.paired hFits
      omega
  | stopped =>
      have hPaired : (ends loop past).length = (ticks loop past).length := hFits
      omega

theorem polls_waiting {ticker : Ticker} (hPolls : Polls loop past s)
    (hTicker : loop.ticker? s = some ticker) :
    (ticks loop past = [] -> ticker.isDue s.now = true) ∧
      (Prompt loop past -> s.isCancelled = false -> forall tick done,
        (ticks loop past).getLast? = some tick -> (ends loop past).getLast? = some done ->
        s.now ≤ max (tick + loop.period s.config) done) := by
  have hFits := hPolls.paced.fits
  rw [Poller.gait_waiting.mpr hTicker] at hFits
  have hPeriod := Time.Poised.period hFits
  rcases Time.Poised.since hFits with ⟨since, hSince, hPast, hSoon⟩
  generalize ticks loop past = taken at hSince
  generalize ends loop past = dealt at hSince
  cases hSince with
  | made => exact ⟨fun _ => Ticker.isDue_iff.mpr hPast, fun _ _ _ _ hNone => nomatch hNone⟩
  | @rested taken dealt last since hFollows =>
      refine ⟨by simp, ?_⟩
      intro hPrompt hAwake tick done hTick hDone
      rw [List.getLast?_concat] at hTick hDone
      cases hTick
      cases hDone
      have hNow := hSoon ⟨hPrompt, hAwake⟩
      have hLate := hFollows.late
      omega

end

/--
The law, for both loops and in every state that can be reached.  The ticks that a loop has taken
and the ends of what they called for alternate, so that ticks never overlap.  However long that
takes, there is a period between two ticks, or up to five milliseconds less.  If time does not
pass over a tick that is due, the next one is taken after a period, or as soon as what the last
one called for has been done, if this comes later; and a loop that waits is still in time.
-/
theorem polling_law (loop : Poller) (config : Config) (now : Nat) (outside : Outside)
    (sink : Option Notice.Sink) (hs : List Happening) :
    let past := (assemble config now outside sink).scenes hs
    let s := (assemble config now outside sink).after hs
    let period := loop.period config
    ((ends loop past).length ≤ (ticks loop past).length ∧
        (ticks loop past).length ≤ (ends loop past).length + 1) ∧
      (forall (k done : Nat), (ends loop past)[k]? = some done ->
        exists tick, (ticks loop past)[k]? = some tick ∧ tick ≤ done) ∧
      (forall (k tick next : Nat), (ticks loop past)[k]? = some tick ->
        (ticks loop past)[k + 1]? = some next ->
        exists done, (ends loop past)[k]? = some done ∧
          done ≤ next ∧
          period - 5 ≤ next - tick ∧
          (Prompt loop past ->
            next - tick ≤ max period (done - tick) ∧ (tick + period ≤ done -> next = done))) ∧
      (forall ticker, loop.ticker? s = some ticker ->
        (ticks loop past = [] -> ticker.isDue s.now = true) ∧
          (Prompt loop past -> s.isCancelled = false -> forall tick done,
            (ticks loop past).getLast? = some tick -> (ends loop past).getLast? = some done ->
            s.now - tick ≤ max period (done - tick)) ∧
          (s.isCancelled = false -> ticker.isDue s.now = true -> s.turn? loop.turn ≠ none)) := by
  intro past s period
  have hPolls : Polls loop past s := polls_after loop config now outside sink hs
  have hPeriod : loop.period s.config = period :=
    congrArg loop.period (config_after (assemble config now outside sink) hs)
  have hSpaced := hPolls.paced.spaced
  rw [hPeriod] at hSpaced
  refine ⟨polls_lengths hPolls, hSpaced.dealt, ?_, ?_⟩
  · intro k tick next hTick hNext
    rcases hSpaced.rounds k tick next hTick hNext with ⟨done, hDone, hRound⟩
    have hApart := hRound.apart
    unfold Ticker.tolerance at hApart
    refine ⟨done, hDone, hRound.rested, by omega, ?_⟩
    intro hPrompt
    have hRested := hRound.rested
    have hSoon := hRound.soon hPrompt
    exact ⟨by omega, by omega⟩
  · intro ticker hTicker
    have hWaiting := polls_waiting hPolls hTicker
    rw [hPeriod] at hWaiting
    refine ⟨hWaiting.1, ?_, ?_⟩
    · intro hPrompt hAwake tick done hTick hDone
      have hNow := hWaiting.2 hPrompt hAwake tick done hTick hDone
      omega
    · intro hAwake hDue
      have hOrder : InOrder s :=
        inOrder_after (inOrder_assemble config now outside sink) hs
      exact due_turn hOrder hAwake hTicker hDue

/-!
## A stall
-/

def polled : Monitor :=
  assemble ⟨0, 5000, 1.0, 60, ""⟩ 0
    ⟨.script ⟨[some false], [], [], .off⟩, .memory .empty, .fair⟩ none

def slow : Outside :=
  ⟨.script ⟨[some false], [], [], .off⟩, .memory .empty,
    { Conditions.fair with delay := fun _ => 12000 }⟩

/-- The second tick is stalled, the third comes at once and the fourth after a period. -/
def stall : List Happening :=
  [ .start, .turn .leak, .turn .leak, .wait 5000, .shift slow, .turn .leak, .wait 17000
  , .turn .leak, .shift polled.outside, .turn .leak, .turn .leak, .wait 22000, .turn .leak ]

theorem polling_law_stall :
    Prompt .leak (polled.scenes stall) ∧
      ticks .leak (polled.scenes stall) = [0, 5000, 17000, 22000] ∧
      ends .leak (polled.scenes stall) = [0, 17000, 17000] ∧
      exists done, (ends .leak (polled.scenes stall))[1]? = some done ∧ done ≤ 17000 ∧
        5000 - 5 ≤ 17000 - 5000 ∧ 17000 - 5000 ≤ max 5000 (done - 5000) ∧
        (5000 + 5000 ≤ done -> 17000 = done) := by
  have hPrompt : Prompt .leak (polled.scenes stall) := by
    have hTested : (polled.scenes stall).all (Scene.isPrompt .leak) = true := by decide
    exact fun scene hMem => prompt_of_isPrompt (List.all_eq_true.mp hTested scene hMem)
  have hTicks : ticks .leak (polled.scenes stall) = [0, 5000, 17000, 22000] := by decide
  have hTick (k : Nat) :
      (ticks .leak (polled.scenes stall))[k]? = [0, 5000, 17000, 22000][k]? := by rw [hTicks]
  have hLaw := polling_law .leak ⟨0, 5000, 1.0, 60, ""⟩ 0
    ⟨.script ⟨[some false], [], [], .off⟩, .memory .empty, .fair⟩ none stall
  rcases hLaw.2.2.1 1 5000 17000 (hTick 1) (hTick 2) with
    ⟨done, hDone, hRested, hApart, hSoon⟩
  have hStall := hSoon hPrompt
  exact ⟨hPrompt, hTicks, by decide, done, hDone, hRested, hApart, hStall.1, hStall.2⟩

end Monitor
end TubMonitor
