import TubMonitor.Ozone.Controller
import TubMonitor.Proofs.Effects
import TubMonitor.Proofs.Replies

/-!
# Moves of the ozone loop

Every phase either waits for the reply of one call or for what may come next.  An event
that is waited for makes exactly one of the moves below, so a property of the loop is
checked move by move.
-/

namespace TubMonitor
namespace Ozone
namespace Controller

open Monitor (Call Effect Reply)
open Time (Instant instantOf)

def call? (c : Controller) : Option Call :=
  match c.phase with
  | .dormant => none
  | .loading => some (.store .latestEntry)
  | .securing => some (.sensors (.switch .ozone false))
  | .waiting _ => none
  | .switchingOff _ _ => some (.sensors (.switch .ozone false))
  | .closing _ _ id _ => some (.store (.stopEntry id))
  | .labelling run ending _ => run.id.map fun id => .store (.setStatus id ending.status)
  | .recording opening => some (.store (.startEntry opening.start opening.minutes))
  | .switchingOn _ _ => some (.sensors (.switch .ozone true))
  | .flagging _ id why => some (.store (.setStatus id (onFailureStatus why)))
  | .ended => none

/-- The row that is being closed and then labelled is the row of the run. -/
def Filed (c : Controller) : Prop :=
  match c.phase with
  | .closing run _ id _ => run.id = some id
  | .labelling run _ _ => run.id.isSome = true
  | _ => True

inductive Awaits (now : Nat) (c : Controller) : Event -> Prop where
  | reply {call : Call} {reply : Reply} (hCall : c.call? = some call)
      (hFits : call.Fits reply) : Awaits now c (.reply reply)
  | cancel (hWaiting : c.isWaiting = true) : Awaits now c .cancel
  | deadline {run : Run} (hRun : c.active? = some run) (hDue : run.deadline ≤ now) :
      Awaits now c .deadline
  | command (command : Command) (ticket : Nat) (hWaiting : c.isWaiting = true) :
      Awaits now c (.command command ticket)

inductive Move (now : Nat) (c : Controller) : Event -> Controller × List Effect -> Prop where
  | loaded (outcome : Except Fault (Option Entry)) (hPhase : c.phase = .loading) :
      Move now c (.reply (.store (.latestEntry outcome)))
        ({ phase := .securing, shown := c.restored outcome }, [switchCall false])
  | secured (outcome : Except Fault Unit) (hPhase : c.phase = .securing) :
      Move now c (.reply (.sensors (.switched outcome)))
        ({ c with phase := .waiting none }, offWarning outcome)
  | finished (hPhase : c.phase = .waiting none) :
      Move now c .cancel ({ c with phase := .ended }, [])
  | shutDown {run : Run} (hPhase : c.phase = .waiting (some run)) :
      Move now c .cancel (c.retire run .shutdown)
  | expired {run : Run} (hPhase : c.phase = .waiting (some run)) (hDue : run.deadline ≤ now) :
      Move now c .deadline (c.retire run .expired)
  | spared (ticket : Nat) (hPhase : c.phase = .waiting none) :
      Move now c (.command .stop ticket) (c, [.acknowledge ticket])
  | stopped {run : Run} (ticket : Nat) (hPhase : c.phase = .waiting (some run)) :
      Move now c (.command .stop ticket) (c.retire run (.manual ticket))
  | opened (minutes ticket : Nat) (hPhase : c.phase = .waiting none) :
      Move now c (.command (.start minutes) ticket) (c.begin now minutes ticket)
  | replaced {run : Run} (minutes ticket : Nat) (hPhase : c.phase = .waiting (some run)) :
      Move now c (.command (.start minutes) ticket) (c.retire run (.replaced minutes ticket))
  | switchedOff {run : Run} {ending : Ending} {id : Int} (outcome : Except Fault Unit)
      (hPhase : c.phase = .switchingOff run ending) (hRow : run.id = some id) :
      Move now c (.reply (.sensors (.switched outcome)))
        ({ c with phase := .closing run ending id (instantOf now) },
          offWarning outcome ++ [stopCall id])
  /-- A run without a row is over once the generator has been switched off. -/
  | unfiled {run : Run} {ending : Ending} (outcome : Except Fault Unit)
      (hPhase : c.phase = .switchingOff run ending) (hRow : run.id = none) :
      Move now c (.reply (.sensors (.switched outcome)))
        ((c.retired now run ending (instantOf now)).1,
          offWarning outcome ++ (c.retired now run ending (instantOf now)).2)
  | closed {run : Run} {ending : Ending} {id : Int} {stop : Instant}
      (outcome : Except Fault Entry) (hPhase : c.phase = .closing run ending id stop) :
      Move now c (.reply (.store (.entry outcome)))
        ({ c with
            phase :=
              .labelling run ending
                (match outcome with
                | .ok entry => entry.stop.getD stop
                | .error _ => stop) },
          [statusCall id ending.status])
  | labelled {run : Run} {ending : Ending} {stop : Instant} (outcome : Except Fault Entry)
      (hPhase : c.phase = .labelling run ending stop) :
      Move now c (.reply (.store (.entry outcome))) (c.retired now run ending stop)
  | recorded {opening : Opening} (outcome : Except Fault Entry)
      (hPhase : c.phase = .recording opening) :
      Move now c (.reply (.store (.entry outcome)))
        ({ c with phase := .switchingOn opening (outcome.toOption.map Entry.id) },
          [switchCall true])
  | switchedOn {opening : Opening} {id : Option Int}
      (hPhase : c.phase = .switchingOn opening id) :
      Move now c (.reply (.sensors (.switched (.ok ()))))
        (began now opening id runningStatus)
  | failedOn {opening : Opening} {id : Int} (fault : Fault)
      (hPhase : c.phase = .switchingOn opening (some id)) :
      Move now c (.reply (.sensors (.switched (.error fault))))
        ({ c with phase := .flagging opening id fault },
          [statusCall id (onFailureStatus fault)])
  | failedUnfiled {opening : Opening} (fault : Fault)
      (hPhase : c.phase = .switchingOn opening none) :
      Move now c (.reply (.sensors (.switched (.error fault))))
        (beganWithout now opening none fault)
  | flagged {opening : Opening} {id : Int} {why : Fault} (outcome : Except Fault Entry)
      (hPhase : c.phase = .flagging opening id why) :
      Move now c (.reply (.store (.entry outcome)))
        (beganWithout now opening (some id) why)

theorem isWaiting_iff {c : Controller} :
    c.isWaiting = true ↔ exists active, c.phase = .waiting active := by
  unfold isWaiting
  cases c.phase <;> simp

theorem active?_eq_some {c : Controller} {run : Run} :
    c.active? = some run ↔ c.phase = .waiting (some run) := by
  unfold active?
  cases c.phase <;> simp

theorem hasEnded_iff {c : Controller} : c.hasEnded = true ↔ c.phase = .ended := by
  unfold hasEnded
  cases c.phase <;> simp

theorem step_moves {now : Nat} {c : Controller} {event : Event} (h : Awaits now c event) :
    Move now c event (c.step now event) := by
  rcases c with ⟨phase, shown⟩
  cases h with
  | reply hCall hFits =>
      cases phase with
      | dormant => cases hCall
      | loading =>
          cases hCall
          cases hFits with
          | latestEntry outcome => exact .loaded outcome rfl
      | securing =>
          cases hCall
          cases hFits with
          | switch device on outcome => exact .secured outcome rfl
      | waiting active => cases hCall
      | switchingOff run ending =>
          cases hCall
          cases hFits with
          | switch device on outcome =>
              cases hRow : run.id with
              | some id =>
                  simpa [step, hRow] using Move.switchedOff outcome rfl hRow
              | none =>
                  simpa [step, hRow] using Move.unfiled outcome rfl hRow
      | closing run ending id stop =>
          cases hCall
          cases hFits with
          | stopEntry id outcome => exact .closed outcome rfl
      | labelling run ending stop =>
          rcases Option.map_eq_some_iff.mp hCall with ⟨id, _, hSet⟩
          subst hSet
          cases hFits with
          | setStatus id status outcome => exact .labelled outcome rfl
      | recording opening =>
          cases hCall
          cases hFits with
          | startEntry start minutes outcome => exact .recorded outcome rfl
      | switchingOn opening id =>
          cases hCall
          cases hFits with
          | switch device on outcome =>
              cases outcome with
              | ok => exact .switchedOn rfl
              | error fault =>
                  cases id with
                  | some id => exact .failedOn fault rfl
                  | none => exact .failedUnfiled fault rfl
      | flagging opening id why =>
          cases hCall
          cases hFits with
          | setStatus id status outcome => exact .flagged outcome rfl
      | ended => cases hCall
  | cancel hWaiting =>
      rcases isWaiting_iff.mp hWaiting with ⟨active, hPhase⟩
      subst hPhase
      cases active with
      | none => exact .finished rfl
      | some run => exact .shutDown rfl
  | deadline hRun hDue =>
      have hPhase := active?_eq_some.mp hRun
      subst hPhase
      simpa [step, hDue] using Move.expired rfl hDue
  | command command ticket hWaiting =>
      rcases isWaiting_iff.mp hWaiting with ⟨active, hPhase⟩
      subst hPhase
      cases command with
      | stop =>
          cases active with
          | none => exact .spared ticket rfl
          | some run => exact .stopped ticket rfl
      | start minutes =>
          cases active with
          | none => exact .opened minutes ticket rfl
          | some run => exact .replaced minutes ticket rfl

theorem step_of_move {now : Nat} {c : Controller} {event : Event}
    {result : Controller × List Effect} (h : Move now c event result) :
    c.step now event = result := by
  rcases c with ⟨phase, shown⟩
  cases h with
  | spared ticket hPhase | stopped ticket hPhase =>
      cases hPhase
      rfl
  | expired hPhase hDue =>
      cases hPhase
      simp [step, hDue]
  | switchedOff outcome hPhase hRow | unfiled outcome hPhase hRow =>
      cases hPhase
      simp [step, hRow]
  | _ =>
      rename_i hPhase
      cases hPhase
      rfl

/-!
## One call at a time
-/

@[simp] theorem callsOf_offWarning (outcome : Except Fault Unit) :
    Monitor.callsOf (offWarning outcome) = [] := by
  cases outcome <;> rfl

@[simp] theorem ticketsOf_offWarning (outcome : Except Fault Unit) :
    Monitor.ticketsOf (offWarning outcome) = [] := by
  cases outcome <;> rfl

theorem retired_calls (c : Controller) (now : Nat) (run : Run) (ending : Ending)
    (stop : Instant) :
    Monitor.callsOf (c.retired now run ending stop).2 =
      (c.retired now run ending stop).1.call?.toList := by
  cases ending <;> rfl

/-- A move makes the call that the phase it leads to waits for, if that waits for one. -/
theorem move_calls {now : Nat} {c : Controller} {event : Event}
    {result : Controller × List Effect} (hFiled : c.Filed) (h : Move now c event result) :
    Monitor.callsOf result.2 = result.1.call?.toList := by
  cases h with
  | loaded outcome hPhase => rfl
  | secured outcome hPhase => simp [call?]
  | finished hPhase => rfl
  | shutDown hPhase => rfl
  | expired hPhase hDue => rfl
  | spared ticket hPhase => simp [call?, hPhase]
  | stopped ticket hPhase => rfl
  | opened minutes ticket hPhase => rfl
  | replaced minutes ticket hPhase => rfl
  | switchedOff outcome hPhase hRow => simp [call?, stopCall]
  | unfiled outcome hPhase hRow => simpa using retired_calls ..
  | closed outcome hPhase =>
      unfold Filed at hFiled
      rw [hPhase] at hFiled
      simp [call?, statusCall, hFiled]
  | labelled outcome hPhase => exact retired_calls ..
  | recorded outcome hPhase => rfl
  | switchedOn hPhase => rfl
  | failedOn fault hPhase => rfl
  | failedUnfiled fault hPhase => rfl
  | flagged outcome hPhase => rfl

theorem move_filed {now : Nat} {c : Controller} {event : Event}
    {result : Controller × List Effect} (hFiled : c.Filed) (h : Move now c event result) :
    result.1.Filed := by
  cases h with
  | switchedOff outcome hPhase hRow => exact hRow
  | spared ticket hPhase => exact hFiled
  | @unfiled run ending outcome hPhase hRow => cases ending <;> exact trivial
  | closed outcome hPhase =>
      unfold Filed at hFiled
      rw [hPhase] at hFiled
      exact Option.isSome_iff_exists.mpr ⟨_, hFiled⟩
  | @labelled run ending stop outcome hPhase => cases ending <;> exact trivial
  | _ => exact trivial

theorem move_begun {now : Nat} {c : Controller} {event : Event}
    {result : Controller × List Effect} (h : Move now c event result) :
    c.phase ≠ .dormant ∧ result.1.phase ≠ .dormant := by
  cases h with
  | spared ticket hPhase => simp [hPhase]
  | @unfiled run ending outcome hPhase hRow =>
      refine ⟨by simp [hPhase], ?_⟩
      cases ending <;> exact Phase.noConfusion
  | @labelled run ending stop outcome hPhase =>
      refine ⟨by simp [hPhase], ?_⟩
      cases ending <;> exact Phase.noConfusion
  | _ => exact ⟨by simp [*], Phase.noConfusion⟩

theorem move_running {now : Nat} {c : Controller} {event : Event}
    {result : Controller × List Effect} (h : Move now c event result) : c.hasEnded = false := by
  cases h <;> simp [hasEnded, *]

end Controller
end Ozone
end TubMonitor
