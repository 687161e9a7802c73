import TubMonitor.Monitor.Mailbox
import TubMonitor.Proofs.Mail.Letters

/-!
# Without tickets

Tickets tell commands apart, and those of one loop are drawn from the same numbers as
those of another.  No loop looks at them: what it does with a command whose ticket has
been taken off is what it does with the command, apart from the ticket.
-/

namespace TubMonitor

namespace Monitor

def Effect.anonymous : Effect -> Effect
  | .call request => .call request
  | .notify message => .notify message
  | .acknowledge _ => .acknowledge 0

theorem callsOf_anonymous (effects : List Effect) :
    callsOf (effects.map Effect.anonymous) = callsOf effects := by
  induction effects with
  | nil => rfl
  | cons effect rest ih =>
      cases effect with
      | call request => exact congrArg (request :: ·) ih
      | notify message => exact ih
      | acknowledge ticket => exact ih

/-!
## Mailboxes
-/

section Mailbox

variable {α : Type}

def Letter.anonymous (letter : Letter α) : Letter α :=
  { letter with ticket := 0 }

namespace Mailbox

def anonymous (m : Mailbox α) : Mailbox α :=
  { slot := m.slot.map Letter.anonymous
    line := m.line.map Letter.anonymous
    isOpen := m.isOpen }

theorem anonymous_pending (m : Mailbox α) :
    m.anonymous.pending = m.pending.map Letter.anonymous := by
  cases hSlot : m.slot <;> simp [anonymous, pending, hSlot]

theorem anonymous_send (m : Mailbox α) (letter : Letter α) :
    m.anonymous.send? letter.anonymous = (m.send? letter).map anonymous := by
  have hFree : (m.anonymous.slot.isNone && m.anonymous.line.isEmpty) =
      (m.slot.isNone && m.line.isEmpty) := by
    simp [anonymous]
  unfold send?
  rw [hFree]
  cases hOpen : m.isOpen with
  | false => simp [anonymous, hOpen]
  | true =>
      cases m.slot.isNone && m.line.isEmpty <;> simp [anonymous, hOpen]

theorem anonymous_take (m : Mailbox α) :
    m.anonymous.take? =
      m.take?.map fun (letter, next) => (letter.anonymous, next.anonymous) := by
  unfold take? anonymous
  cases m.slot <;> rfl

theorem anonymous_refill (m : Mailbox α) :
    m.anonymous.refill? = m.refill?.map anonymous := by
  rcases m with ⟨slot, line, isOpen⟩
  cases slot <;> cases line <;> rfl

/-!
Two mailboxes that differ in tickets only are handled alike.
-/

section Alike

variable {m other : Mailbox α}

theorem slot_alike (h : m.anonymous = other.anonymous) :
    m.slot.isSome = other.slot.isSome := by
  have hSlot := congrArg (fun m => m.slot.isSome) h
  simpa [anonymous] using hSlot

theorem pending_alike (h : m.anonymous = other.anonymous) :
    m.pending.length = other.pending.length := by
  have hLength := congrArg (fun m => m.pending.length) h
  simpa only [anonymous_pending, List.length_map] using hLength

theorem send_alike (h : m.anonymous = other.anonymous) (command : α)
    (ticket otherTicket : Nat) :
    (m.send? ⟨command, ticket⟩ = none ∧ other.send? ⟨command, otherTicket⟩ = none) ∨
      exists box boxToo, m.send? ⟨command, ticket⟩ = some box ∧
        other.send? ⟨command, otherTicket⟩ = some boxToo ∧
        box.anonymous = boxToo.anonymous := by
  have hSend : (m.send? ⟨command, ticket⟩).map anonymous =
      (other.send? ⟨command, otherTicket⟩).map anonymous := by
    rw [← anonymous_send, ← anonymous_send, h]
    rfl
  cases hFirst : m.send? ⟨command, ticket⟩ with
  | none =>
      rw [hFirst, Option.map_none, eq_comm, Option.map_eq_none_iff] at hSend
      exact Or.inl ⟨rfl, hSend⟩
  | some box =>
      rw [hFirst, Option.map_some, eq_comm, Option.map_eq_some_iff] at hSend
      rcases hSend with ⟨boxToo, hSecond, hBox⟩
      exact Or.inr ⟨box, boxToo, rfl, hSecond, hBox.symm⟩

theorem take_alike {letter letterToo : Letter α} {box boxToo : Mailbox α}
    (h : m.anonymous = other.anonymous) (hFirst : m.take? = some (letter, box))
    (hSecond : other.take? = some (letterToo, boxToo)) :
    letter.command = letterToo.command ∧ box.anonymous = boxToo.anonymous := by
  have hTaken := congrArg take? h
  rw [anonymous_take, anonymous_take, hFirst, hSecond, Option.map_some, Option.map_some,
    Option.some.injEq, Prod.mk.injEq] at hTaken
  have hCommand := congrArg Letter.command hTaken.1
  exact ⟨hCommand, hTaken.2⟩

theorem refill_alike (h : m.anonymous = other.anonymous) :
    (m.refill?.getD m).anonymous = (other.refill?.getD other).anonymous := by
  have hRefill := congrArg refill? h
  rw [anonymous_refill, anonymous_refill] at hRefill
  rw [← Option.getD_map anonymous m, ← Option.getD_map anonymous other, hRefill, h]

end Alike

end Mailbox
end Mailbox
end Monitor

open Monitor (Effect)

/-!
## The ozone loop
-/

namespace Ozone

def Opening.anonymous (o : Opening) : Opening :=
  { o with ticket := 0 }

def Ending.anonymous : Ending -> Ending
  | .manual _ => .manual 0
  | .expired => .expired
  | .replaced minutes _ => .replaced minutes 0
  | .shutdown => .shutdown

def Phase.anonymous : Phase -> Phase
  | .dormant => .dormant
  | .loading => .loading
  | .securing => .securing
  | .waiting active => .waiting active
  | .switchingOff run ending => .switchingOff run ending.anonymous
  | .closing run ending id stop => .closing run ending.anonymous id stop
  | .labelling run ending stop => .labelling run ending.anonymous stop
  | .recording opening => .recording opening.anonymous
  | .switchingOn opening id => .switchingOn opening.anonymous id
  | .flagging opening id why => .flagging opening.anonymous id why
  | .ended => .ended

def Event.anonymous : Event -> Event
  | .reply answer => .reply answer
  | .command order _ => .command order 0
  | .deadline => .deadline
  | .cancel => .cancel

@[simp] theorem Ending.status_anonymous (ending : Ending) :
    ending.anonymous.status = ending.status := by
  cases ending <;> rfl

namespace Controller

def anonymous (c : Controller) : Controller :=
  { c with phase := c.phase.anonymous }

/-!
What the loop waits for, and what it shows, does not depend on tickets.
-/

theorem anonymous_isWaiting (c : Controller) : c.anonymous.isWaiting = c.isWaiting := by
  rcases c with ⟨phase, shown⟩
  cases phase <;> rfl

theorem anonymous_active? (c : Controller) : c.anonymous.active? = c.active? := by
  rcases c with ⟨phase, shown⟩
  cases phase <;> rfl

theorem anonymous_hasEnded (c : Controller) : c.anonymous.hasEnded = c.hasEnded := by
  rcases c with ⟨phase, shown⟩
  cases phase <;> rfl

theorem anonymous_held (c : Controller) : c.anonymous.held.length = c.held.length := by
  have hEnding (ending : Ending) :
      ending.anonymous.letters.length = ending.letters.length := by
    cases ending <;> rfl
  rcases c with ⟨phase, shown⟩
  cases phase <;> first | rfl | exact hEnding _

/-- The result of a step, without the tickets in it. -/
def untold (result : Controller × List Effect) : Controller × List Effect :=
  (result.1.anonymous, result.2.map Effect.anonymous)

theorem anonymous_offWarning (outcome : Except Fault Unit) :
    (offWarning outcome).map Effect.anonymous = offWarning outcome := by
  cases outcome <;> rfl

theorem anonymous_retired (c : Controller) (now : Nat) (run : Run) (ending : Ending)
    (stop : Time.Instant) :
    c.anonymous.retired now run ending.anonymous stop =
      untold (c.retired now run ending stop) := by
  cases ending <;> rfl

theorem anonymous_step {now : Nat} {c : Controller} {event : Event}
    {result : Controller × List Effect} (h : Move now c event result) :
    c.anonymous.step now event.anonymous = untold result := by
  rcases c with ⟨phase, shown⟩
  cases h with
  | loaded outcome hPhase =>
      cases hPhase
      rfl
  | secured outcome hPhase =>
      cases hPhase
      simp [anonymous, step, untold, Event.anonymous, Phase.anonymous, anonymous_offWarning]
  | finished hPhase =>
      cases hPhase
      rfl
  | shutDown hPhase =>
      cases hPhase
      rfl
  | expired hPhase hDue =>
      cases hPhase
      simp [anonymous, step, untold, Event.anonymous, Phase.anonymous, hDue, retire,
        Ending.anonymous, switchCall, Effect.anonymous]
  | spared ticket hPhase =>
      cases hPhase
      rfl
  | stopped ticket hPhase =>
      cases hPhase
      rfl
  | opened minutes ticket hPhase =>
      cases hPhase
      rfl
  | replaced minutes ticket hPhase =>
      cases hPhase
      rfl
  | @switchedOff run ending id outcome hPhase hRow =>
      cases hPhase
      simp [anonymous, step, untold, Event.anonymous, Phase.anonymous, hRow,
        anonymous_offWarning, stopCall, Effect.anonymous]
  | @unfiled run ending outcome hPhase hRow =>
      cases hPhase
      have hRetired := anonymous_retired ⟨.switchingOff run ending, shown⟩ now run ending
        (Time.instantOf now)
      simp only [anonymous, Phase.anonymous, step, Event.anonymous, hRow] at hRetired ⊢
      rw [hRetired]
      simp [untold, anonymous_offWarning]
  | @closed run ending id stop outcome hPhase =>
      cases hPhase
      cases outcome <;>
        simp [anonymous, step, untold, Event.anonymous, Phase.anonymous, statusCall,
          Effect.anonymous]
  | @labelled run ending stop outcome hPhase =>
      cases hPhase
      exact anonymous_retired ⟨.labelling run ending stop, shown⟩ now run ending stop
  | recorded outcome hPhase =>
      cases hPhase
      rfl
  | switchedOn hPhase =>
      cases hPhase
      rfl
  | failedOn fault hPhase =>
      cases hPhase
      rfl
  | failedUnfiled fault hPhase =>
      cases hPhase
      rfl
  | flagged outcome hPhase =>
      cases hPhase
      rfl

end Controller
end Ozone

/-!
## The temperature loop
-/

namespace Temperature

def Event.anonymous : Event -> Event
  | .reply answer => .reply answer
  | .command order _ => .command order 0
  | .tick => .tick
  | .cancel => .cancel

namespace Sampler

/-- The result of a step, without the tickets in it; the state has none. -/
def untold (result : Sampler × List Effect) : Sampler × List Effect :=
  (result.1, result.2.map Effect.anonymous)

theorem anonymous_record (s : Sampler) (now : Nat) (room water : Option Float) :
    (s.record now room water).2.map Effect.anonymous = (s.record now room water).2 := by
  simp only [record]
  split <;> rfl

theorem anonymous_step {now : Nat} {s : Sampler} {event : Event}
    {result : Sampler × List Effect} (h : Move now s event result) :
    s.step now event.anonymous = untold result := by
  rcases s with ⟨phase, tolerance, ticker, room, water, sampled, target⟩
  cases h with
  | finished hPhase =>
      cases hPhase
      rfl
  | served command ticket hPhase hTicker =>
      cases hPhase
      rfl
  | ticked hPhase hTicker hDue =>
      cases hPhase
      cases hTicker
      simp [step, untold, Event.anonymous, hDue, Effect.anonymous]
  | read readings hPhase hTicker =>
      cases hPhase
      rfl
  | saved outcome hPhase hTicker =>
      cases hPhase
      rw [untold, anonymous_record]
      rfl

end Sampler
end Temperature
end TubMonitor
