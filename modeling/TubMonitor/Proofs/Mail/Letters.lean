import TubMonitor.Monitor.Mailbox
import TubMonitor.Proofs.Ozone.Moves
import TubMonitor.Proofs.Temperature.Moves

/-!
# Letters in hand

A command that the ozone loop has taken stays in hand until the calls it takes have
been made; the temperature loop is done with a command at once.  No move loses a
letter: what was in hand and what comes in is either answered or in hand afterwards,
and what is answered is shown.
-/

namespace TubMonitor

open Monitor (Effect Letter)

/-!
## The ozone loop
-/

namespace Ozone

def Event.letters : Event -> List (Letter Command)
  | .command order ticket => [⟨order, ticket⟩]
  | .reply _ | .deadline | .cancel => []

def Ending.letters : Ending -> List (Letter Command)
  | .manual ticket => [⟨.stop, ticket⟩]
  | .replaced minutes ticket => [⟨.start minutes, ticket⟩]
  | .expired | .shutdown => []

def Opening.letter (o : Opening) : Letter Command :=
  ⟨.start o.minutes, o.ticket⟩

/-- The panel shows what the command has brought about. -/
def Command.Shown : Command -> RunState -> Prop
  | .start minutes, shown =>
      shown.running = true ∧ shown.minutes = minutes ∧ shown.start.isSome = true
  | .stop, shown => shown.running = false

namespace Controller

def held (c : Controller) : List (Letter Command) :=
  match c.phase with
  | .switchingOff _ ending | .closing _ ending _ _ | .labelling _ ending _ => ending.letters
  | .recording opening | .switchingOn opening _ | .flagging opening _ _ => [opening.letter]
  | .dormant | .loading | .securing | .waiting _ | .ended => []

theorem held_cases (c : Controller) : c.held = [] ∨ exists letter, c.held = [letter] := by
  have hEnding (ending : Ending) :
      ending.letters = [] ∨ exists letter, ending.letters = [letter] := by
    cases ending with
    | manual ticket => exact Or.inr ⟨_, rfl⟩
    | expired => exact Or.inl rfl
    | replaced minutes ticket => exact Or.inr ⟨_, rfl⟩
    | shutdown => exact Or.inl rfl
  unfold held
  split
  · exact hEnding _
  · exact hEnding _
  · exact hEnding _
  all_goals first | exact Or.inl rfl | exact Or.inr ⟨_, rfl⟩

/-- The letters that a move answers, and that nothing is lost with it. -/
structure Answers (c : Controller) (event : Event) (result : Controller × List Effect)
    (answered : List (Letter Command)) : Prop where
  kept : c.held ++ event.letters = answered ++ result.1.held
  tickets : Monitor.ticketsOf result.2 = answered.map Letter.ticket
  shown : forall letter, letter ∈ answered -> letter.command.Shown result.1.shown
  free : event.letters ≠ [] -> c.held = []

theorem answers_retired {c : Controller} {now : Nat} {run : Run} {ending : Ending}
    {stop : Time.Instant} {event : Event} {warning : List Effect}
    (hHeld : c.held = ending.letters) (hEvent : event.letters = [])
    (hWarning : Monitor.ticketsOf warning = []) :
    exists answered,
      Answers c event
        ((c.retired now run ending stop).1, warning ++ (c.retired now run ending stop).2)
        answered := by
  have hFree : event.letters ≠ [] -> c.held = [] := fun hSome => absurd hEvent hSome
  cases ending with
  | manual ticket =>
      refine ⟨[⟨.stop, ticket⟩], by rw [hHeld, hEvent]; rfl, ?_, ?_, hFree⟩
      · rw [Monitor.ticketsOf_append, hWarning]
        rfl
      · intro letter hLetter
        rw [List.mem_singleton.mp hLetter]
        rfl
  | expired | shutdown | replaced minutes ticket =>
      refine ⟨[], by rw [hHeld, hEvent]; rfl, ?_, by simp, hFree⟩
      rw [Monitor.ticketsOf_append, hWarning]
      rfl

theorem answers_began {c : Controller} {now : Nat} {opening : Opening} {id : Option Int}
    {status : String} {event : Event} {effects : List Effect}
    (hHeld : c.held = [opening.letter]) (hEvent : event.letters = [])
    (hTickets : Monitor.ticketsOf effects = [opening.ticket]) :
    Answers c event ((began now opening id status).1, effects) [opening.letter] where
  kept := by
    rw [hHeld, hEvent]
    rfl
  tickets := hTickets
  shown := by
    intro letter hLetter
    rw [List.mem_singleton.mp hLetter]
    exact ⟨rfl, rfl, rfl⟩
  free := by simp [hEvent]

theorem answers_none {c : Controller} {event : Event} {result : Controller × List Effect}
    (hKept : c.held = result.1.held) (hEvent : event.letters = [])
    (hTickets : Monitor.ticketsOf result.2 = []) : Answers c event result [] where
  kept := by rw [hEvent, List.append_nil, List.nil_append, hKept]
  tickets := hTickets
  shown := by simp
  free := by simp [hEvent]

theorem answers_taken {c : Controller} {order : Command} {ticket : Nat}
    {result : Controller × List Effect} (hFree : c.held = [])
    (hTaken : result.1.held = [⟨order, ticket⟩]) (hTickets : Monitor.ticketsOf result.2 = []) :
    Answers c (.command order ticket) result [] where
  kept := by rw [hFree, hTaken]; rfl
  tickets := hTickets
  shown := by simp
  free := fun _ => hFree

theorem move_answers {now : Nat} {c : Controller} {event : Event}
    {result : Controller × List Effect}
    (hIdle : c.phase = .waiting none -> c.shown.running = false)
    (h : Move now c event result) : exists answered, Answers c event result answered := by
  cases h with
  | loaded outcome hPhase => exact ⟨[], answers_none (by simp [held, hPhase]) rfl rfl⟩
  | secured outcome hPhase =>
      exact ⟨[], answers_none (by simp [held, hPhase]) rfl (ticketsOf_offWarning outcome)⟩
  | finished hPhase => exact ⟨[], answers_none (by simp [held, hPhase]) rfl rfl⟩
  | shutDown hPhase =>
      exact ⟨[], answers_none (by simp [held, hPhase, retire, Ending.letters]) rfl rfl⟩
  | expired hPhase hDue =>
      exact ⟨[], answers_none (by simp [held, hPhase, retire, Ending.letters]) rfl rfl⟩
  | spared ticket hPhase =>
      have hFree : c.held = [] := by simp [held, hPhase]
      refine ⟨[⟨.stop, ticket⟩], by rw [hFree]; rfl, rfl, ?_, fun _ => hFree⟩
      intro letter hLetter
      rw [List.mem_singleton.mp hLetter]
      exact hIdle hPhase
  | stopped ticket hPhase => exact ⟨[], answers_taken (by simp [held, hPhase]) rfl rfl⟩
  | opened minutes ticket hPhase => exact ⟨[], answers_taken (by simp [held, hPhase]) rfl rfl⟩
  | replaced minutes ticket hPhase =>
      exact ⟨[], answers_taken (by simp [held, hPhase]) rfl rfl⟩
  | switchedOff outcome hPhase hRow =>
      exact ⟨[], answers_none (by simp [held, hPhase]) rfl (by simp [stopCall])⟩
  | unfiled outcome hPhase hRow =>
      exact answers_retired (by simp [held, hPhase]) rfl (ticketsOf_offWarning outcome)
  | closed outcome hPhase => exact ⟨[], answers_none (by simp [held, hPhase]) rfl rfl⟩
  | @labelled run ending stop outcome hPhase =>
      have hAnswers : exists answered,
          Answers c (.reply (.store (.entry outcome)))
            ((c.retired now run ending stop).1, [] ++ (c.retired now run ending stop).2)
            answered :=
        answers_retired (by simp [held, hPhase]) rfl rfl
      exact hAnswers
  | recorded outcome hPhase => exact ⟨[], answers_none (by simp [held, hPhase]) rfl rfl⟩
  | switchedOn hPhase => exact ⟨_, answers_began (by simp [held, hPhase]) rfl rfl⟩
  | failedOn fault hPhase => exact ⟨[], answers_none (by simp [held, hPhase]) rfl rfl⟩
  | failedUnfiled fault hPhase => exact ⟨_, answers_began (by simp [held, hPhase]) rfl rfl⟩
  | flagged outcome hPhase => exact ⟨_, answers_began (by simp [held, hPhase]) rfl rfl⟩

theorem move_taken {now : Nat} {c : Controller} {event : Event} {result : Controller × List Effect}
    (h : Move now c event result) (hTaken : event.letters ≠ []) :
    result.1.hasEnded = false := by
  cases h with
  | spared ticket hPhase => simp [hasEnded, hPhase]
  | stopped ticket hPhase => rfl
  | opened minutes ticket hPhase => rfl
  | replaced minutes ticket hPhase => rfl
  | _ => exact absurd rfl hTaken

end Controller
end Ozone

/-!
## The temperature loop
-/

namespace Temperature

def Event.letters : Event -> List (Letter Command)
  | .command order ticket => [⟨order, ticket⟩]
  | .reply _ | .tick | .cancel => []

/-- The target is the one that was asked for, and armed, or there is none. -/
def Command.Shown (command : Command) (s : Sampler) : Prop :=
  s.target = command.map Target.armed

namespace Sampler

theorem record_tickets (s : Sampler) (now : Nat) (room water : Option Float) :
    Monitor.ticketsOf (s.record now room water).2 = [] := by
  simp only [record]
  split <;> rfl

theorem move_tickets {now : Nat} {s : Sampler} {event : Event}
    {result : Sampler × List Effect} (h : Move now s event result) :
    Monitor.ticketsOf result.2 = event.letters.map Letter.ticket := by
  cases h with
  | finished hPhase => rfl
  | served command ticket hPhase hTicker => rfl
  | ticked hPhase hTicker hDue => rfl
  | read readings hPhase hTicker => rfl
  | saved outcome hPhase hTicker => exact record_tickets ..

theorem move_shown {now : Nat} {s : Sampler} {event : Event} {result : Sampler × List Effect}
    (h : Move now s event result) {letter : Letter Command} (hLetter : letter ∈ event.letters) :
    letter.command.Shown result.1 := by
  cases h with
  | served command ticket hPhase hTicker =>
      rw [List.mem_singleton.mp hLetter]
      rfl
  | _ => cases hLetter

theorem move_taken {now : Nat} {s : Sampler} {event : Event} {result : Sampler × List Effect}
    (h : Move now s event result) (hTaken : event.letters ≠ []) :
    result.1.hasEnded = false := by
  cases h with
  | served command ticket hPhase hTicker => simp [hasEnded, serve, hPhase]
  | _ => exact absurd rfl hTaken

end Sampler
end Temperature
end TubMonitor
