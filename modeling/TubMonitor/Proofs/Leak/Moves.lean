import TubMonitor.Leak.Watch
import TubMonitor.Proofs.Effects
import TubMonitor.Proofs.Replies

/-!
# Moves of the leak loop

As for the ozone loop: a phase waits for the reply of one call, for the next tick, or
for nothing at all.
-/

namespace TubMonitor
namespace Leak
namespace Watch

open Monitor (Call Effect Reply)
open Time (Instant Ticker instantOf)

/--
The call whose reply the phase waits for, if it waits for one.  Once the first reading
has been dealt with there is something that ticks.
-/
inductive Expects (w : Watch) : Option Call -> Prop where
  | dormant (hPhase : w.phase = .dormant) : Expects w none
  | loading (hPhase : w.phase = .loading) : Expects w (some (.store .latestRecord))
  | seeding (hPhase : w.phase = .seeding) : Expects w (some (.sensors .leak))
  | halting (hPhase : w.phase = .halting) : Expects w (some (.sensors (.switch .pump false)))
  | recording {detected : Instant} (hPhase : w.phase = .recording) :
      Expects w (some (.store (.createRecord detected)))
  | recalling (hPhase : w.phase = .recalling) : Expects w (some (.store .latestRecord))
  | closing {id : Int} (hPhase : w.phase = .closing) :
      Expects w (some (.store (.clearRecord id)))
  | waiting {ticker : Ticker} (hPhase : w.phase = .waiting) (hTicker : w.ticker = some ticker) :
      Expects w none
  | polling {ticker : Ticker} (hPhase : w.phase = .polling) (hTicker : w.ticker = some ticker) :
      Expects w (some (.sensors .leak))
  | ended (hPhase : w.phase = .ended) : Expects w none
  | failed (hPhase : w.phase = .failed) : Expects w none

inductive Awaits (now : Nat) (w : Watch) : Event -> Prop where
  | reply {call : Call} {reply : Reply} (hExpects : w.Expects (some call))
      (hFits : call.Fits reply) : Awaits now w (.reply reply)
  | cancel {ticker : Ticker} (hTicker : w.ticker? = some ticker) : Awaits now w .cancel
  | tick {ticker : Ticker} (hTicker : w.ticker? = some ticker)
      (hDue : ticker.isDue now = true) : Awaits now w .tick

inductive Move (now : Nat) (w : Watch) : Event -> Watch × List Effect -> Prop where
  | loaded (outcome : Except Fault (Option Record)) (hPhase : w.phase = .loading) :
      Move now w (.reply (.store (.latestRecord outcome)))
        ({ w with
            phase := .seeding
            latest :=
              match outcome with
              | .ok latest => latest
              | .error _ => w.latest },
          [leakCall])
  | seeded (outcome : Except Fault Bool) (hPhase : w.phase = .seeding) :
      Move now w (.reply (.sensors (.level outcome)))
        (w.observe now (outcome.toOption.getD false))
  | halted (outcome : Except Fault Unit) (hPhase : w.phase = .halting) :
      Move now w (.reply (.sensors (.switched outcome)))
        (after (pumpWarning outcome) (w.follow now))
  | recorded (outcome : Except Fault Record) (hPhase : w.phase = .recording) :
      Move now w (.reply (.store (.record outcome)))
        (after [.notify "Leak detected! Pump turned off."] ((w.updated outcome).settle now))
  | recalled {record : Record} (hPhase : w.phase = .recalling) (hOpen : record.isOpen = true) :
      Move now w (.reply (.store (.latestRecord (.ok (some record)))))
        ({ w with phase := .closing }, [.call (.store (.clearRecord record.id))])
  /-- There is no open record to be closed. -/
  | unmatched (outcome : Except Fault (Option Record)) (hPhase : w.phase = .recalling) :
      Move now w (.reply (.store (.latestRecord outcome))) (w.settle now)
  | cleared (record : Record) (hPhase : w.phase = .closing) :
      Move now w (.reply (.store (.record (.ok record))))
        (after [.notify "Leak cleared."] ((w.updated (.ok record)).settle now))
  | notCleared (fault : Fault) (hPhase : w.phase = .closing) :
      Move now w (.reply (.store (.record (.error fault)))) (w.settle now)
  | finished (hPhase : w.phase = .waiting) : Move now w .cancel ({ w with phase := .ended }, [])
  | ticked {ticker : Ticker} (hPhase : w.phase = .waiting) (hTicker : w.ticker = some ticker)
      (hDue : ticker.isDue now = true) :
      Move now w .tick
        ({ w with phase := .polling, ticker := some (ticker.take now) }, [leakCall])
  | polled (present : Bool) (hPhase : w.phase = .polling) :
      Move now w (.reply (.sensors (.level (.ok present)))) (w.observe now present)
  | missed {ticker : Ticker} (fault : Fault) (hPhase : w.phase = .polling)
      (hTicker : w.ticker = some ticker) :
      Move now w (.reply (.sensors (.level (.error fault)))) ({ w with phase := .waiting }, [])

theorem ticker?_eq_some {w : Watch} {ticker : Ticker} :
    w.ticker? = some ticker ↔ w.phase = .waiting ∧ w.ticker = some ticker := by
  unfold ticker?
  cases w.phase <;> simp

theorem step_moves {now : Nat} {w : Watch} {event : Event} (h : Awaits now w event) :
    Move now w event (w.step now event) := by
  cases h with
  | reply hExpects hFits =>
      cases hExpects with
      | loading hPhase =>
          cases hFits with
          | latestRecord outcome =>
              have hMove : Move now w _ _ := Move.loaded outcome hPhase
              cases outcome <;> simpa [step, hPhase] using hMove
      | seeding hPhase =>
          cases hFits with
          | leak outcome => simpa [step, hPhase] using Move.seeded outcome hPhase
      | halting hPhase =>
          cases hFits with
          | switch device on outcome => simpa [step, hPhase] using Move.halted outcome hPhase
      | recording hPhase =>
          cases hFits with
          | createRecord detected outcome =>
              simpa [step, hPhase] using Move.recorded outcome hPhase
      | recalling hPhase =>
          cases hFits with
          | latestRecord outcome =>
              cases outcome with
              | error fault => simpa [step, hPhase] using Move.unmatched (.error fault) hPhase
              | ok found =>
                  cases found with
                  | none => simpa [step, hPhase] using Move.unmatched (.ok none) hPhase
                  | some record =>
                      cases hOpen : record.isOpen with
                      | true => simpa [step, hPhase, hOpen] using Move.recalled hPhase hOpen
                      | false =>
                          simpa [step, hPhase, hOpen]
                            using Move.unmatched (.ok (some record)) hPhase
      | closing hPhase =>
          cases hFits with
          | clearRecord id outcome =>
              cases outcome with
              | ok record => simpa [step, hPhase] using Move.cleared record hPhase
              | error fault => simpa [step, hPhase] using Move.notCleared fault hPhase
      | polling hPhase hTicker =>
          cases hFits with
          | leak outcome =>
              cases outcome with
              | ok present => simpa [step, hPhase] using Move.polled present hPhase
              | error fault => simpa [step, hPhase] using Move.missed fault hPhase hTicker
  | cancel hTicker =>
      have hPhase := (ticker?_eq_some.mp hTicker).1
      simpa [step, hPhase] using Move.finished hPhase
  | tick hTicker hDue =>
      have ⟨hPhase, hSome⟩ := ticker?_eq_some.mp hTicker
      simpa [step, hPhase, hSome, hDue] using Move.ticked hPhase hSome hDue

/-!
## One call at a time
-/

/-- The phase waits for the reply of the one call that has been made, if there is one. -/
def Asks (result : Watch × List Effect) : Prop :=
  exists call?, result.1.Expects call? ∧ Monitor.callsOf result.2 = call?.toList

theorem asks_after {effects : List Effect} {result : Watch × List Effect}
    (hQuiet : Monitor.callsOf effects = []) (h : Asks result) : Asks (after effects result) := by
  rcases h with ⟨call?, hExpects, hCalls⟩
  exact ⟨call?, hExpects, by simp [after, hQuiet, hCalls]⟩

theorem settle_asks (w : Watch) (now : Nat) : Asks (w.settle now) := by
  simp only [settle]
  split
  · next ticker hTicker => exact ⟨none, .waiting rfl hTicker, rfl⟩
  · split
    · exact ⟨none, .waiting rfl rfl, rfl⟩
    · exact ⟨none, .failed rfl, rfl⟩

theorem follow_asks (w : Watch) (now : Nat) : Asks (w.follow now) := by
  simp only [follow]
  split
  · exact ⟨some _, .recording rfl, rfl⟩
  · exact ⟨some _, .recalling rfl, rfl⟩
  · exact settle_asks w now

theorem observe_asks (w : Watch) (now : Nat) (present : Bool) :
    Asks (w.observe now present) := by
  simp only [observe]
  split
  · exact ⟨some _, .halting rfl, rfl⟩
  · exact follow_asks _ now

@[simp] theorem callsOf_pumpWarning (outcome : Except Fault Unit) :
    Monitor.callsOf (pumpWarning outcome) = [] := by
  cases outcome <;> rfl

theorem move_asks {now : Nat} {w : Watch} {event : Event} {result : Watch × List Effect}
    (h : Move now w event result) : Asks result := by
  cases h with
  | loaded outcome hPhase => exact ⟨some _, .seeding rfl, rfl⟩
  | seeded outcome hPhase => exact observe_asks w now _
  | halted outcome hPhase => exact asks_after (by simp) (follow_asks w now)
  | recorded outcome hPhase => exact asks_after rfl (settle_asks (w.updated outcome) now)
  | recalled hPhase hOpen => exact ⟨some _, .closing rfl, rfl⟩
  | unmatched outcome hPhase => exact settle_asks w now
  | cleared record hPhase => exact asks_after rfl (settle_asks (w.updated (.ok record)) now)
  | notCleared fault hPhase => exact settle_asks w now
  | finished hPhase => exact ⟨none, .ended rfl, rfl⟩
  | ticked hPhase hTicker hDue => exact ⟨some _, .polling rfl rfl, rfl⟩
  | polled present hPhase => exact observe_asks w now present
  | missed fault hPhase hTicker => exact ⟨none, .waiting rfl hTicker, rfl⟩

theorem settle_begun (w : Watch) (now : Nat) :
    (w.settle now).1.phase ≠ Phase.dormant := by
  simp only [settle]
  split
  · exact Phase.noConfusion
  · split <;> exact Phase.noConfusion

theorem follow_begun (w : Watch) (now : Nat) :
    (w.follow now).1.phase ≠ Phase.dormant := by
  simp only [follow]
  split
  · exact Phase.noConfusion
  · exact Phase.noConfusion
  · exact settle_begun w now

theorem observe_begun (w : Watch) (now : Nat) (present : Bool) :
    (w.observe now present).1.phase ≠ Phase.dormant := by
  simp only [observe]
  split
  · exact Phase.noConfusion
  · exact follow_begun _ now

theorem move_begun {now : Nat} {w : Watch} {event : Event} {result : Watch × List Effect}
    (h : Move now w event result) : w.phase ≠ .dormant ∧ result.1.phase ≠ .dormant := by
  cases h with
  | seeded outcome hPhase => exact ⟨by simp [hPhase], observe_begun w now _⟩
  | halted outcome hPhase => exact ⟨by simp [hPhase], follow_begun w now⟩
  | recorded outcome hPhase => exact ⟨by simp [hPhase], settle_begun (w.updated outcome) now⟩
  | unmatched outcome hPhase => exact ⟨by simp [hPhase], settle_begun w now⟩
  | cleared record hPhase => exact ⟨by simp [hPhase], settle_begun (w.updated _) now⟩
  | notCleared fault hPhase => exact ⟨by simp [hPhase], settle_begun w now⟩
  | polled present hPhase => exact ⟨by simp [hPhase], observe_begun w now present⟩
  | _ => exact ⟨by simp [*], Phase.noConfusion⟩

theorem reset_expects {w : Watch} {call? : Option Call} (h : w.Expects call?) :
    w.reset.Expects call? := by
  cases h with
  | dormant hPhase => exact .dormant hPhase
  | loading hPhase => exact .loading hPhase
  | seeding hPhase => exact .seeding hPhase
  | halting hPhase => exact .halting hPhase
  | recording hPhase => exact .recording hPhase
  | recalling hPhase => exact .recalling hPhase
  | closing hPhase => exact .closing hPhase
  | waiting hPhase hTicker => exact .waiting hPhase hTicker
  | polling hPhase hTicker => exact .polling hPhase hTicker
  | ended hPhase => exact .ended hPhase
  | failed hPhase => exact .failed hPhase

theorem move_running {now : Nat} {w : Watch} {event : Event} {result : Watch × List Effect}
    (h : Move now w event result) : w.hasEnded = false := by
  cases h <;> simp [hasEnded, *]

/-!
## No commands
-/

theorem settle_tickets (w : Watch) (now : Nat) : Monitor.ticketsOf (w.settle now).2 = [] := by
  simp only [settle]
  split
  · rfl
  · split <;> rfl

theorem follow_tickets (w : Watch) (now : Nat) : Monitor.ticketsOf (w.follow now).2 = [] := by
  simp only [follow]
  split
  · rfl
  · rfl
  · exact settle_tickets w now

theorem observe_tickets (w : Watch) (now : Nat) (present : Bool) :
    Monitor.ticketsOf (w.observe now present).2 = [] := by
  simp only [observe]
  split
  · rfl
  · exact follow_tickets _ now

@[simp] theorem ticketsOf_pumpWarning (outcome : Except Fault Unit) :
    Monitor.ticketsOf (pumpWarning outcome) = [] := by
  cases outcome <;> rfl

theorem move_tickets {now : Nat} {w : Watch} {event : Event} {result : Watch × List Effect}
    (h : Move now w event result) : Monitor.ticketsOf result.2 = [] := by
  cases h with
  | seeded outcome hPhase => exact observe_tickets w now _
  | halted outcome hPhase => simp [after, follow_tickets w now]
  | recorded outcome hPhase => exact settle_tickets (w.updated outcome) now
  | unmatched outcome hPhase => exact settle_tickets w now
  | cleared record hPhase => exact settle_tickets (w.updated (.ok record)) now
  | notCleared fault hPhase => exact settle_tickets w now
  | polled present hPhase => exact observe_tickets w now present
  | _ => rfl

end Watch
end Leak
end TubMonitor
