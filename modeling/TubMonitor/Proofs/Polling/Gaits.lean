import TubMonitor.Proofs.Leak.Moves
import TubMonitor.Proofs.Temperature.Moves
import TubMonitor.Proofs.Time.Pace

/-!
# Gaits of the loops

How the leak loop and the temperature loop stand to their tickers.  The leak loop deals with a
first reading before it makes its ticker; after that a reply leaves it busy or makes it wait
for a tick again.
-/

namespace TubMonitor

open Time (Gait Stride Ticker)

/-!
## Gaits of the leak loop
-/

namespace Leak

def Event.isTick : Event -> Bool
  | .tick => true
  | _ => false

def Event.isReply : Event -> Bool
  | .reply _ => true
  | _ => false

namespace Watch

open Monitor (Call Effect Reply)

/-- Before there is anything that ticks the loop has not begun to poll. -/
def gait (w : Watch) : Gait :=
  match w.phase with
  | .dormant => .unbegun
  | .waiting => (w.ticker.map Gait.waiting).getD .unbegun
  | .ended => .stopped
  | _ => (w.ticker.map Gait.busy).getD .unbegun

/-- It is not for a tick that the loop waits. -/
def isBusy (w : Watch) : Bool :=
  match w.phase with
  | .dormant => false
  | .waiting => false
  | .ended => false
  | _ => true

theorem gait_busy {w : Watch} (hBusy : w.isBusy = true) :
    w.gait = (w.ticker.map Gait.busy).getD .unbegun := by
  unfold isBusy at hBusy
  unfold gait
  cases hPhase : w.phase <;> simp_all

theorem gait_waiting {w : Watch} {ticker : Ticker} :
    w.gait = .waiting ticker ↔ w.ticker? = some ticker := by
  unfold gait ticker?
  cases w.phase <;> cases w.ticker <;> simp

theorem expects_waiting {w : Watch} {call? : Option Call} (h : w.Expects call?)
    (hPhase : w.phase = .waiting) :
    call? = none ∧ exists ticker, w.ticker? = some ticker := by
  cases h with
  | @waiting ticker hWaiting hTicker =>
      exact ⟨rfl, ticker, ticker?_eq_some.mpr ⟨hWaiting, hTicker⟩⟩
  | _ => simp_all

/-- Where a reply takes the loop to, from its ticker or from none. -/
inductive Proceeds (period now : Nat) : Option Ticker -> Watch -> Prop where
  | goesOn {ticker? : Option Ticker} {next : Watch} (hTicker : next.ticker = ticker?)
      (hBusy : next.isBusy = true) : Proceeds period now ticker? next
  | rests {ticker : Ticker} {next : Watch} (hTicker : next.ticker = some ticker)
      (hPhase : next.phase = .waiting) : Proceeds period now (some ticker) next
  | seeds {ticker : Ticker} {next : Watch} (hStart : Ticker.start? period now = some ticker)
      (hTicker : next.ticker = some (ticker.take now)) (hPhase : next.phase = .waiting) :
      Proceeds period now none next

theorem settle_proceeds (w : Watch) (now : Nat) :
    Proceeds w.period now w.ticker (w.settle now).1 := by
  cases hTicker : w.ticker with
  | some ticker =>
      have hNext : (w.settle now).1 = { w with previous := w.present, phase := .waiting } := by
        simp [settle, hTicker]
      rw [hNext]
      exact .rests hTicker rfl
  | none =>
      cases hStart : Ticker.start? w.period now with
      | some ticker =>
          have hNext : (w.settle now).1 =
              { w with
                previous := w.present
                phase := .waiting
                ticker := some (ticker.take now) } := by simp [settle, hTicker, hStart]
          rw [hNext]
          exact .seeds hStart rfl rfl
      | none =>
          have hNext : (w.settle now).1 = { w with previous := w.present, phase := .failed } := by
            simp [settle, hTicker, hStart]
          rw [hNext]
          exact .goesOn hTicker rfl

theorem follow_proceeds (w : Watch) (now : Nat) :
    Proceeds w.period now w.ticker (w.follow now).1 := by
  unfold follow
  split
  · exact .goesOn rfl rfl
  · exact .goesOn rfl rfl
  · exact settle_proceeds w now

theorem observe_proceeds (w : Watch) (now : Nat) (present : Bool) :
    Proceeds w.period now w.ticker (w.observe now present).1 := by
  unfold observe
  dsimp only
  split
  · exact .goesOn rfl rfl
  · exact follow_proceeds { w with present } now

theorem reply_busy {now : Nat} {w : Watch} {reply : Reply} {result : Watch × List Effect}
    (h : Move now w (.reply reply) result) : w.isBusy = true := by
  cases h <;> simp [isBusy, *]

theorem reply_proceeds {now : Nat} {w : Watch} {reply : Reply} {result : Watch × List Effect}
    (h : Move now w (.reply reply) result) : Proceeds w.period now w.ticker result.1 := by
  cases h with
  | loaded outcome hPhase => exact .goesOn rfl rfl
  | seeded outcome hPhase => exact observe_proceeds w now _
  | halted outcome hPhase => exact follow_proceeds w now
  | recorded outcome hPhase =>
      cases outcome with
      | ok record => exact settle_proceeds (w.updated (.ok record)) now
      | error fault => exact settle_proceeds (w.updated (.error fault)) now
  | recalled hPhase hOpen => exact .goesOn rfl rfl
  | unmatched outcome hPhase => exact settle_proceeds w now
  | cleared record hPhase => exact settle_proceeds (w.updated (.ok record)) now
  | notCleared fault hPhase => exact settle_proceeds w now
  | polled present hPhase => exact observe_proceeds w now present
  | missed fault hPhase hTicker =>
      rw [hTicker]
      exact .rests rfl rfl

/-- A reply makes the loop wait for a tick, with a ticker of its own if it had none. -/
theorem proceeds_stride {period now : Nat} {awake : Prop} {w next : Watch}
    (hBusy : w.isBusy = true) (h : Proceeds period now w.ticker next) :
    Stride period now awake w.gait next.gait
      (if w.ticker.isNone && next.ticker.isSome then [now] else [])
      (if next.ticker?.isSome then [now] else []) := by
  rw [gait_busy hBusy]
  generalize w.ticker = ticker? at h
  cases h with
  | goesOn hTicker hStill =>
      have hNone : next.ticker? = none := by
        unfold isBusy at hStill
        unfold Watch.ticker?
        cases hPhase : next.phase <;> simp_all
      rw [gait_busy hStill, hTicker, hNone]
      cases ticker? <;> exact .still _
  | @rests ticker _ hTicker hPhase =>
      have hWaits := ticker?_eq_some.mpr ⟨hPhase, hTicker⟩
      rw [gait_waiting.mpr hWaits, hWaits]
      exact .rested ticker
  | seeds hStart hTicker hPhase =>
      have hWaits := ticker?_eq_some.mpr ⟨hPhase, hTicker⟩
      rw [gait_waiting.mpr hWaits, hWaits, hTicker]
      exact .seeded hStart

theorem move_stride {now : Nat} {awake : Prop} {w : Watch} {event : Event}
    {result : Watch × List Effect} (hMove : Move now w event result)
    (hTicks : w.phase = .waiting -> exists ticker, w.ticker? = some ticker)
    (hAwake : event = .tick -> awake) :
    Stride w.period now awake w.gait result.1.gait
      (if event.isTick || (w.ticker.isNone && result.1.ticker.isSome) then [now] else [])
      (if event.isReply && result.1.ticker?.isSome then [now] else []) := by
  cases event with
  | reply reply => exact proceeds_stride (reply_busy hMove) (reply_proceeds hMove)
  | tick =>
      cases hMove with
      | ticked hPhase hTicker hDue =>
          rw [gait_waiting.mpr (ticker?_eq_some.mpr ⟨hPhase, hTicker⟩)]
          exact .taken (hAwake rfl) hDue
  | cancel =>
      cases hMove with
      | finished hPhase =>
          rcases hTicks hPhase with ⟨ticker, hWaits⟩
          have hTicker := (ticker?_eq_some.mp hWaits).2
          rw [gait_waiting.mpr hWaits, hTicker]
          exact .ended ticker

/-!
## The period
-/

theorem settle_period (w : Watch) (now : Nat) : (w.settle now).1.period = w.period := by
  simp only [settle]
  split
  · rfl
  · split <;> rfl

theorem follow_period (w : Watch) (now : Nat) : (w.follow now).1.period = w.period := by
  simp only [follow]
  split
  · rfl
  · rfl
  · exact settle_period w now

theorem observe_period (w : Watch) (now : Nat) (present : Bool) :
    (w.observe now present).1.period = w.period := by
  simp only [observe]
  split
  · rfl
  · exact follow_period { w with present } now

theorem move_period {now : Nat} {w : Watch} {event : Event} {result : Watch × List Effect}
    (h : Move now w event result) : result.1.period = w.period := by
  cases h with
  | seeded outcome hPhase => exact observe_period w now _
  | halted outcome hPhase => exact follow_period w now
  | recorded outcome hPhase =>
      cases outcome with
      | ok record => exact settle_period (w.updated (.ok record)) now
      | error fault => exact settle_period (w.updated (.error fault)) now
  | unmatched outcome hPhase => exact settle_period w now
  | cleared record hPhase => exact settle_period (w.updated (.ok record)) now
  | notCleared fault hPhase => exact settle_period w now
  | polled present hPhase => exact observe_period w now present
  | _ => rfl

end Watch
end Leak

/-!
## Gaits of the temperature loop
-/

namespace Temperature

def Event.isTick : Event -> Bool
  | .tick => true
  | _ => false

def Event.isReply : Event -> Bool
  | .reply _ => true
  | _ => false

namespace Sampler

open Monitor (Call Effect)

def gait (s : Sampler) : Gait :=
  match s.phase with
  | .dormant => .unbegun
  | .waiting => (s.ticker.map Gait.waiting).getD .unbegun
  | .ended => .stopped
  | _ => (s.ticker.map Gait.busy).getD .unbegun

theorem gait_waiting {s : Sampler} {ticker : Ticker} :
    s.gait = .waiting ticker ↔ s.ticker? = some ticker := by
  unfold gait ticker?
  cases s.phase <;> cases s.ticker <;> simp

theorem expects_waiting {s : Sampler} {call? : Option Call} (h : s.Expects call?)
    (hPhase : s.phase = .waiting) :
    call? = none ∧ exists ticker, s.ticker? = some ticker := by
  cases h with
  | @waiting ticker hWaiting hTicker =>
      exact ⟨rfl, ticker, ticker?_eq_some.mpr ⟨hWaiting, hTicker⟩⟩
  | _ => simp_all

theorem start_gait (period : Nat) (tolerance : Float) (now : Nat) :
    (start period tolerance now).gait =
      ((Ticker.start? period now).map Gait.waiting).getD .unbegun := by
  cases hStart : Ticker.start? period now <;> simp [start, gait, hStart]

theorem record_ticker (s : Sampler) (now : Nat) (room water : Option Float) :
    (s.record now room water).1.ticker = s.ticker := by
  simp only [record]
  split <;> rfl

theorem move_stride {period now : Nat} {awake : Prop} {s : Sampler} {event : Event}
    {result : Sampler × List Effect} (hMove : Move now s event result)
    (hTicks : s.phase = .waiting -> exists ticker, s.ticker? = some ticker)
    (hAwake : event = .tick -> awake) :
    Stride period now awake s.gait result.1.gait (if event.isTick then [now] else [])
      (if event.isReply && result.1.ticker?.isSome then [now] else []) := by
  cases hMove with
  | finished hPhase =>
      rcases hTicks hPhase with ⟨ticker, hWaits⟩
      rw [gait_waiting.mpr hWaits]
      exact .ended ticker
  | served command ticket hPhase hTicker => exact .still _
  | ticked hPhase hTicker hDue =>
      rw [gait_waiting.mpr (ticker?_eq_some.mpr ⟨hPhase, hTicker⟩)]
      exact .taken (hAwake rfl) hDue
  | read readings hPhase hTicker =>
      have hGait : s.gait =
          gait { s with phase := .saving readings.room.toOption readings.water.toOption } := by
        simp [gait, hPhase]
      rw [hGait]
      exact .still _
  | @saved room water ticker outcome hPhase hTicker =>
      have hWaits := ticker?_eq_some.mpr
        ⟨record_begun s now room water, (record_ticker ..).trans hTicker⟩
      have hGait : s.gait = .busy ticker := by simp [gait, hPhase, hTicker]
      rw [hGait, gait_waiting.mpr hWaits, hWaits]
      exact .rested ticker

end Sampler
end Temperature
end TubMonitor
