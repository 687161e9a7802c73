import TubMonitor.Proofs.Effects
import TubMonitor.Proofs.Replies
import TubMonitor.Temperature.Sampler

/-!
# Moves of the temperature loop

As for the other loops.  A command is dealt with on the spot; a sample takes two calls.
-/

namespace TubMonitor
namespace Temperature
namespace Sampler

open Monitor (Call Effect Reply)
open Time (Ticker)

/-- The call whose reply the phase waits for; a loop that goes on has something that ticks. -/
inductive Expects (s : Sampler) : Option Call -> Prop where
  | dormant (hPhase : s.phase = .dormant) : Expects s none
  | waiting {ticker : Ticker} (hPhase : s.phase = .waiting) (hTicker : s.ticker = some ticker) :
      Expects s none
  | reading {ticker : Ticker} (hPhase : s.phase = .reading) (hTicker : s.ticker = some ticker) :
      Expects s (some (.sensors .temperatures))
  | saving {room water : Option Float} {ticker : Ticker} (hPhase : s.phase = .saving room water)
      (hTicker : s.ticker = some ticker) : Expects s (some (.store (.saveSample room water)))
  | ended (hPhase : s.phase = .ended) : Expects s none
  | failed (hPhase : s.phase = .failed) : Expects s none

inductive Awaits (now : Nat) (s : Sampler) : Event -> Prop where
  | reply {call : Call} {reply : Reply} (hExpects : s.Expects (some call))
      (hFits : call.Fits reply) : Awaits now s (.reply reply)
  | cancel (hWaiting : s.isWaiting = true) : Awaits now s .cancel
  | command (command : Command) (ticket : Nat) (hExpects : s.Expects none)
      (hWaiting : s.isWaiting = true) : Awaits now s (.command command ticket)
  | tick {ticker : Ticker} (hTicker : s.ticker? = some ticker)
      (hDue : ticker.isDue now = true) : Awaits now s .tick

inductive Move (now : Nat) (s : Sampler) : Event -> Sampler × List Effect -> Prop where
  | finished (hPhase : s.phase = .waiting) : Move now s .cancel ({ s with phase := .ended }, [])
  | served {ticker : Ticker} (command : Command) (ticket : Nat) (hPhase : s.phase = .waiting)
      (hTicker : s.ticker = some ticker) :
      Move now s (.command command ticket) (s.serve command, [.acknowledge ticket])
  | ticked {ticker : Ticker} (hPhase : s.phase = .waiting) (hTicker : s.ticker = some ticker)
      (hDue : ticker.isDue now = true) :
      Move now s .tick
        ({ s with phase := .reading, ticker := some (ticker.take now) },
          [.call (.sensors .temperatures)])
  | read {ticker : Ticker} (readings : Sensors.Readings) (hPhase : s.phase = .reading)
      (hTicker : s.ticker = some ticker) :
      Move now s (.reply (.sensors (.temperatures readings)))
        ({ s with phase := .saving readings.room.toOption readings.water.toOption },
          [.call (.store (.saveSample readings.room.toOption readings.water.toOption))])
  | saved {room water : Option Float} {ticker : Ticker} (outcome : Except Fault Sample)
      (hPhase : s.phase = .saving room water) (hTicker : s.ticker = some ticker) :
      Move now s (.reply (.store (.sample outcome))) (s.record now room water)

theorem ticker?_eq_some {s : Sampler} {ticker : Ticker} :
    s.ticker? = some ticker ↔ s.phase = .waiting ∧ s.ticker = some ticker := by
  unfold ticker?
  cases s.phase <;> simp

theorem isWaiting_iff {s : Sampler} : s.isWaiting = true ↔ s.phase = .waiting := by
  unfold isWaiting
  cases s.phase <;> simp

theorem step_moves {now : Nat} {s : Sampler} {event : Event} (h : Awaits now s event) :
    Move now s event (s.step now event) := by
  cases h with
  | reply hExpects hFits =>
      cases hExpects with
      | reading hPhase hTicker =>
          cases hFits with
          | temperatures readings => simpa [step, hPhase] using Move.read readings hPhase hTicker
      | saving hPhase hTicker =>
          cases hFits with
          | saveSample room water outcome =>
              simpa [step, hPhase] using Move.saved outcome hPhase hTicker
  | cancel hWaiting =>
      have hPhase := isWaiting_iff.mp hWaiting
      simpa [step, hPhase] using Move.finished hPhase
  | command command ticket hExpects hWaiting =>
      have hPhase := isWaiting_iff.mp hWaiting
      cases hExpects with
      | waiting hPhase hTicker =>
          simpa [step, hPhase] using Move.served command ticket hPhase hTicker
      | dormant hOther => simp [hPhase] at hOther
      | ended hOther => simp [hPhase] at hOther
      | failed hOther => simp [hPhase] at hOther
  | tick hTicker hDue =>
      have ⟨hPhase, hSome⟩ := ticker?_eq_some.mp hTicker
      simpa [step, hPhase, hSome, hDue] using Move.ticked hPhase hSome hDue

/-!
## One call at a time
-/

/-- The phase waits for the reply of the one call that has been made, if there is one. -/
def Asks (result : Sampler × List Effect) : Prop :=
  exists call?, result.1.Expects call? ∧ Monitor.callsOf result.2 = call?.toList

theorem record_asks (s : Sampler) (now : Nat) (room water : Option Float) {ticker : Ticker}
    (hTicker : s.ticker = some ticker) : Asks (s.record now room water) := by
  simp only [record]
  split
  · exact ⟨none, .waiting rfl hTicker, rfl⟩
  · exact ⟨none, .waiting rfl hTicker, rfl⟩

theorem move_asks {now : Nat} {s : Sampler} {event : Event} {result : Sampler × List Effect}
    (h : Move now s event result) : Asks result := by
  cases h with
  | finished hPhase => exact ⟨none, .ended rfl, rfl⟩
  | served command ticket hPhase hTicker => exact ⟨none, .waiting hPhase hTicker, rfl⟩
  | ticked hPhase hTicker hDue => exact ⟨some _, .reading rfl rfl, rfl⟩
  | read readings hPhase hTicker => exact ⟨some _, .saving rfl hTicker, rfl⟩
  | saved outcome hPhase hTicker => exact record_asks s now _ _ hTicker

theorem record_begun (s : Sampler) (now : Nat) (room water : Option Float) :
    (s.record now room water).1.phase = .waiting := by
  simp only [record]
  split <;> rfl

theorem move_begun {now : Nat} {s : Sampler} {event : Event} {result : Sampler × List Effect}
    (h : Move now s event result) : s.phase ≠ .dormant ∧ result.1.phase ≠ .dormant := by
  cases h with
  | served command ticket hPhase hTicker => simp [serve, hPhase]
  | saved outcome hPhase hTicker => simp [hPhase, record_begun]
  | _ => exact ⟨by simp [*], Phase.noConfusion⟩

theorem start_expects (period : Nat) (tolerance : Float) (now : Nat) :
    (start period tolerance now).Expects none := by
  cases hTicker : Ticker.start? period now with
  | none => exact .failed (by simp [start, hTicker])
  | some ticker => exact .waiting (by simp [start, hTicker]) hTicker

theorem start_begun (period : Nat) (tolerance : Float) (now : Nat) :
    (start period tolerance now).phase ≠ .dormant := by
  simp only [start]
  split <;> exact Phase.noConfusion

theorem reset_expects {s : Sampler} {call? : Option Call} (h : s.Expects call?) :
    s.reset.Expects call? := by
  cases h with
  | dormant hPhase => exact .dormant hPhase
  | waiting hPhase hTicker => exact .waiting hPhase hTicker
  | reading hPhase hTicker => exact .reading hPhase hTicker
  | saving hPhase hTicker => exact .saving hPhase hTicker
  | ended hPhase => exact .ended hPhase
  | failed hPhase => exact .failed hPhase

theorem move_running {now : Nat} {s : Sampler} {event : Event} {result : Sampler × List Effect}
    (h : Move now s event result) : s.hasEnded = false := by
  cases h <;> simp [hasEnded, *]

end Sampler
end Temperature
end TubMonitor
