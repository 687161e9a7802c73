import Mathlib.Data.List.Basic
import TubMonitor.Time.Ticker

/-!
# The pace of a loop

Of a loop that waits for ticks, two lists of moments are kept: when it took a tick, and when it
had dealt with it.  A tick is taken no earlier than the one before it has been dealt with and
hardly less than a period after it.  If no tick is passed over it is taken no later than it
has to be for these two reasons.
-/

namespace TubMonitor
namespace Time

/-!
## Tickers
-/

namespace Ticker

theorem isDue_iff {t : Ticker} {now : Nat} : t.isDue now = true ↔ t.due ≤ now := by
  simp [isDue]

theorem start?_eq_some {period now : Nat} {t : Ticker} (h : start? period now = some t) :
    t = ⟨period, now⟩ := by
  unfold start? at h
  split at h
  · cases h
  · exact (Option.some.inj h).symm

@[simp] theorem take_period (t : Ticker) (now : Nat) : (t.take now).period = t.period := by
  unfold take
  split <;> rfl

/-- The ticker is due a period after the tick, or a little earlier. -/
structure Follows (t : Ticker) (tick : Nat) : Prop where
  late : t.due ≤ tick + t.period
  early : tick + t.period ≤ t.due + tolerance

theorem take_follows {t : Ticker} {now : Nat} (hDue : t.isDue now = true) :
    (t.take now).Follows now := by
  rw [isDue_iff] at hDue
  unfold take
  split
  · exact ⟨Nat.le_refl _, Nat.le_add_right _ _⟩
  · next hEarly =>
      constructor
      · show t.due + t.period ≤ now + t.period
        omega
      · show now + t.period ≤ t.due + t.period + tolerance
        omega

end Ticker

/-!
## Gaits and strides
-/

inductive Gait where
  | unbegun
  | waiting (ticker : Ticker)
  /-- The last tick has not been dealt with. -/
  | busy (ticker : Ticker)
  | stopped

/-- What a loop does at an instant, with the ticks that it takes and those it has dealt with. -/
inductive Stride (period now : Nat) (awake : Prop) :
    Gait -> Gait -> List Nat -> List Nat -> Prop where
  | still (gait : Gait) : Stride period now awake gait gait [] []
  | made {ticker : Ticker} (hStart : Ticker.start? period now = some ticker) :
      Stride period now awake .unbegun (.waiting ticker) [] []
  /-- The first tick asks for nothing. -/
  | seeded {ticker : Ticker} (hStart : Ticker.start? period now = some ticker) :
      Stride period now awake .unbegun (.waiting (ticker.take now)) [now] [now]
  | taken {ticker : Ticker} (hAwake : awake) (hDue : ticker.isDue now = true) :
      Stride period now awake (.waiting ticker) (.busy (ticker.take now)) [now] []
  | rested (ticker : Ticker) : Stride period now awake (.busy ticker) (.waiting ticker) [] [now]
  | ended (ticker : Ticker) : Stride period now awake (.waiting ticker) .stopped [] []

/-!
## Ticks and their ends
-/

structure Round (period : Nat) (prompt : Prop) (tick done next : Nat) : Prop where
  rested : done ≤ next
  apart : tick + period ≤ next + Ticker.tolerance
  soon : prompt -> next ≤ max (tick + period) done

structure Spaced (period : Nat) (prompt : Prop) (ticks ends : List Nat) : Prop where
  dealt : forall (k done : Nat), ends[k]? = some done ->
    exists tick, ticks[k]? = some tick ∧ tick ≤ done
  rounds : forall (k tick next : Nat), ticks[k]? = some tick -> ticks[k + 1]? = some next ->
    exists done, ends[k]? = some done ∧ Round period prompt tick done next

/-- Since when a loop waits: since its ticker was made or its last tick was dealt with. -/
inductive Since (ticker : Ticker) : List Nat -> List Nat -> Nat -> Prop where
  | made : Since ticker [] [] ticker.due
  | rested (ticks ends : List Nat) {tick since : Nat} (hFollows : ticker.Follows tick) :
      Since ticker (ticks ++ [tick]) (ends ++ [since]) since

/-- A loop that waits has dealt with its ticks, and no tick has been passed over. -/
structure Poised (period : Nat) (awake : Prop) (ticks ends : List Nat) (now : Nat)
    (ticker : Ticker) : Prop where
  period : ticker.period = period
  paired : ends.length = ticks.length
  since : exists since, Since ticker ticks ends since ∧ since ≤ now ∧
    (awake -> now ≤ max ticker.due since)

structure Engaged (period : Nat) (ticks ends : List Nat) (now : Nat) (ticker : Ticker) :
    Prop where
  period : ticker.period = period
  paired : ticks.length = ends.length + 1
  last : exists earlier tick, ticks = earlier ++ [tick] ∧ tick ≤ now ∧ ticker.Follows tick

def Gait.Fits (period : Nat) (awake : Prop) (ticks ends : List Nat) (now : Nat) : Gait -> Prop
  | .unbegun => ticks = [] ∧ ends = []
  | .waiting ticker => Poised period awake ticks ends now ticker
  | .busy ticker => Engaged period ticks ends now ticker
  | .stopped => ends.length = ticks.length

/-- The account of a loop that no tick is passed over, if it is prompt and awake. -/
structure Paced (period : Nat) (prompt awake : Prop) (ticks ends : List Nat) (now : Nat)
    (gait : Gait) : Prop where
  spaced : Spaced period prompt ticks ends
  fits : gait.Fits period (prompt ∧ awake) ticks ends now

section

variable {period now : Nat} {prompt prompt' awake awake' : Prop} {ticks ends : List Nat}
  {ticker : Ticker}

theorem spaced_nil (period : Nat) (prompt : Prop) : Spaced period prompt [] [] where
  dealt := by simp
  rounds := by simp

theorem spaced_imp (h : Spaced period prompt ticks ends) (hPrompt : prompt' -> prompt) :
    Spaced period prompt' ticks ends where
  dealt := h.dealt
  rounds := by
    intro k tick next hTick hNext
    rcases h.rounds k tick next hTick hNext with ⟨done, hDone, hRound⟩
    exact ⟨done, hDone, hRound.rested, hRound.apart, fun h => hRound.soon (hPrompt h)⟩

theorem getElem?_concat {ticks : List Nat} {last k tick : Nat}
    (h : (ticks ++ [last])[k]? = some tick) :
    ticks[k]? = some tick ∨ (k = ticks.length ∧ tick = last) := by
  grind

theorem spaced_tick (h : Spaced period prompt ticks ends)
    (hPoised : Poised period prompt ticks ends now ticker) (hDue : ticker.isDue now = true) :
    Spaced period prompt (ticks ++ [now]) ends := by
  rw [Ticker.isDue_iff] at hDue
  refine ⟨?_, ?_⟩
  · intro k done hDone
    rcases h.dealt k done hDone with ⟨tick, hTick, hEarlier⟩
    exact ⟨tick, by grind, hEarlier⟩
  · intro k tick next hTick hNext
    rcases getElem?_concat hNext with hBefore | ⟨hLast, rfl⟩
    · exact h.rounds k tick next (by grind) hBefore
    · have hPaired := hPoised.paired
      rcases hPoised.since with ⟨since, hSince, hPast, hSoon⟩
      cases hSince with
      | made => simp at hLast
      | @rested ticks ends last since hFollows =>
          have hK : k = ticks.length ∧ k = ends.length := by
            simp at hLast hPaired
            omega
          have hSame : tick = last := by
            rcases hK with ⟨rfl, _⟩
            simpa using hTick.symm
          subst hSame
          have hPeriod := hPoised.period
          refine ⟨since, by simp [hK.2], hPast, ?_, ?_⟩
          · have hEarly := hFollows.early
            omega
          · intro hPrompt
            have hLate := hFollows.late
            have hNow := hSoon hPrompt
            omega

theorem spaced_end (h : Spaced period prompt ticks ends)
    (hEngaged : Engaged period ticks ends now ticker) :
    Spaced period prompt ticks (ends ++ [now]) := by
  have hPaired := hEngaged.paired
  rcases hEngaged.last with ⟨earlier, last, rfl, hLast, _⟩
  refine ⟨?_, ?_⟩
  · intro k done hDone
    rcases getElem?_concat hDone with hBefore | ⟨rfl, rfl⟩
    · exact h.dealt k done hBefore
    · refine ⟨last, ?_, hLast⟩
      simp at hPaired
      simp [← hPaired]
  · intro k tick next hTick hNext
    rcases h.rounds k tick next hTick hNext with ⟨done, hDone, hRound⟩
    exact ⟨done, by grind, hRound⟩

theorem poised_imp (h : Poised period awake ticks ends now ticker) (hAwake : awake' -> awake) :
    Poised period awake' ticks ends now ticker := by
  rcases h.since with ⟨since, hSince, hPast, hSoon⟩
  exact ⟨h.period, h.paired, since, hSince, hPast, fun h => hSoon (hAwake h)⟩

theorem fits_imp {gait : Gait} (h : gait.Fits period awake ticks ends now)
    (hAwake : awake' -> awake) : gait.Fits period awake' ticks ends now := by
  cases gait with
  | waiting ticker => exact poised_imp h hAwake
  | _ => exact h

theorem poised_rested (h : Engaged period ticks ends now ticker) :
    Poised period awake ticks (ends ++ [now]) now ticker := by
  have hPaired := h.paired
  rcases h.last with ⟨earlier, tick, rfl, _, hFollows⟩
  exact ⟨h.period, by simpa using hPaired.symm, now, .rested earlier ends hFollows,
    Nat.le_refl _, fun _ => Nat.le_max_right _ _⟩

theorem engaged_taken (h : Poised period awake ticks ends now ticker)
    (hDue : ticker.isDue now = true) :
    Engaged period (ticks ++ [now]) ends now (ticker.take now) := by
  refine ⟨(Ticker.take_period ticker now).trans h.period, ?_, ticks, now, rfl, Nat.le_refl _,
    Ticker.take_follows hDue⟩
  rw [List.length_append, List.length_singleton, h.paired]

theorem paced_stride {gait next : Gait} {taken done : List Nat}
    (hPaced : Paced period prompt awake ticks ends now gait)
    (hStride : Stride period now awake gait next taken done)
    (hPrompt : prompt' -> prompt) (hAwake : awake' -> awake) :
    Paced period prompt' awake' (ticks ++ taken) (ends ++ done) now next := by
  have hSpaced := spaced_imp hPaced.spaced hPrompt
  have hFits := hPaced.fits
  cases hStride with
  | still =>
      rw [List.append_nil, List.append_nil]
      exact ⟨hSpaced, fits_imp hFits fun h => ⟨hPrompt h.1, hAwake h.2⟩⟩
  | @made ticker hStart =>
      rcases hFits with ⟨rfl, rfl⟩
      cases Ticker.start?_eq_some hStart
      exact ⟨hSpaced, rfl, rfl, now, .made, Nat.le_refl _, fun _ => Nat.le_max_right _ _⟩
  | @seeded ticker hStart =>
      rcases hFits with ⟨rfl, rfl⟩
      cases Ticker.start?_eq_some hStart
      have hDue : Ticker.isDue ⟨period, now⟩ now = true := Ticker.isDue_iff.mpr (Nat.le_refl _)
      have hPoised : Poised period prompt' [] [] now ⟨period, now⟩ :=
        ⟨rfl, rfl, now, .made, Nat.le_refl _, fun _ => Nat.le_max_right _ _⟩
      have hEngaged := engaged_taken hPoised hDue
      exact ⟨spaced_end (spaced_tick hSpaced hPoised hDue) hEngaged, poised_rested hEngaged⟩
  | taken hOn hDue =>
      rw [List.append_nil]
      have hPoised : Poised period prompt' ticks ends now _ :=
        poised_imp hFits fun h => ⟨hPrompt h, hOn⟩
      exact ⟨spaced_tick hSpaced hPoised hDue, engaged_taken hPoised hDue⟩
  | rested ticker =>
      rw [List.append_nil]
      exact ⟨spaced_end hSpaced hFits, poised_rested hFits⟩
  | ended ticker =>
      rw [List.append_nil, List.append_nil]
      exact ⟨hSpaced, hFits.paired⟩

/-- Time passes, and over no tick if the loop is prompt and awake. -/
theorem paced_wait {gait : Gait} {later : Nat}
    (hPaced : Paced period prompt awake ticks ends now gait) (hLater : now ≤ later)
    (hPrompt : prompt' -> prompt) (hAwake : awake' -> awake)
    (hInTime : prompt' -> awake' -> forall ticker, gait = .waiting ticker ->
      later ≤ max now ticker.due) :
    Paced period prompt' awake' ticks ends later gait := by
  refine ⟨spaced_imp hPaced.spaced hPrompt, ?_⟩
  have hFits := hPaced.fits
  cases gait with
  | waiting ticker =>
      have hPoised : Poised period (prompt ∧ awake) ticks ends now ticker := hFits
      rcases hPoised.since with ⟨since, hSince, hPast, hSoon⟩
      refine ⟨hPoised.period, hPoised.paired, since, hSince, Nat.le_trans hPast hLater, ?_⟩
      rintro ⟨hOnTime, hOn⟩
      have hNow := hSoon ⟨hPrompt hOnTime, hAwake hOn⟩
      have hThen := hInTime hOnTime hOn ticker rfl
      omega
  | busy ticker =>
      have hEngaged : Engaged period ticks ends now ticker := hFits
      rcases hEngaged.last with ⟨earlier, tick, hTicks, hTick, hFollows⟩
      exact ⟨hEngaged.period, hEngaged.paired, earlier, tick, hTicks,
        Nat.le_trans hTick hLater, hFollows⟩
  | _ => exact hFits

end

end Time
end TubMonitor
