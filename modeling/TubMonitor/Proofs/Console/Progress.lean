import TubMonitor.Proofs.Console.Conversation
import TubMonitor.Proofs.Fairness

/-!
# The console goes on

In every fair course of events the console comes to its next line again and again: a line
that needs no answer is done with at once, an order is answered, and a call comes through.
So it comes to the first line that quits.
-/

namespace TubMonitor
namespace Monitor

open Console (Command Orders Calls)

/-!
## One turn
-/

section Turn

variable {s served next : Monitor} {worker : Worker Console.Session} {event : Console.Event}
  {result : Console.Session × List Console.Effect} {rest : List String}

theorem console_served (hConsole : s.console = some worker)
    (hEvent : s.consoleEvent? worker = some (event, served)) :
    exists result, ConsoleMoves s worker event result served (s.happen (.turn .console)) := by
  have hNext : s.happen (.turn .console) = served.handConsole worker.state event := by
    simp [happen, turn?, consoleTurn?, hConsole, hEvent]
  rw [hNext]
  exact ⟨_, console_moves hConsole hEvent rfl (handConsole_acts served worker.state event)⟩

theorem next_taken {first : String}
    (h : ConsoleMoves s ⟨⟨first :: rest, .ready⟩, none⟩ event result served next) :
    exists phase pending, next.console = some ⟨⟨rest, phase⟩, pending⟩ := by
  have hActs := h.acts
  rcases moves_ready h with ⟨_, _, hRest, rfl, hTakes⟩
  cases hRest
  cases hTakes with
  | blank hBlank => exact ⟨_, _, (acts_silent hActs).1⟩
  | refused hWords hRead => exact ⟨_, _, (acts_print hActs).1⟩
  | told hRead hTells => exact ⟨_, _, (acts_print hActs).1⟩
  | ordered hRead hOrders => exact ⟨_, _, (acts_order hActs (.turn .console)).1⟩
  | called hRead hCalls => exact ⟨_, _, (acts_call hActs).1⟩
  | quit hRead => exact ⟨_, _, (acts_silent hActs).1⟩

/-- The console is ready for the line after those that are done with. -/
def ReadyAt (s : Monitor) (rest : List String) : Prop :=
  s.console = some ⟨⟨rest, .ready⟩, none⟩

theorem ready_ordered {success : String}
    (h : ConsoleMoves s ⟨⟨rest, .ordering success⟩, none⟩ event result served next) :
    next.ReadyAt rest := by
  rcases moves_ordering h with ⟨_, _, _, rfl⟩
  exact (acts_print h.acts).1

theorem ready_called {snapshot : Snapshot} {action : Console.PumpAction} {call : Call}
    {due : Nat} (hCalls : Calls snapshot action call)
    (h : ConsoleMoves s ⟨⟨rest, .calling action⟩, some ⟨call, due⟩⟩ event result served next) :
    next.ReadyAt rest := by
  rcases moves_calling hCalls h with ⟨_, _, _, rfl⟩
  exact (acts_print h.acts).1

end Turn

/-!
## Along a course
-/

/-- What holds along a fair course that leaves the console its lines. -/
structure Talk (past : List Scene) (given : List String) (s : Monitor)
    (course : Nat -> Happening) : Prop where
  mail : forall n,
    MailInOrder (past ++ s.scenes ((List.range n).map course)) (s.along course n)
  conversed : forall n,
    Conversed (past ++ s.scenes ((List.range n).map course)) (s.scenes ((List.range n).map course))
      given (s.along course n)
  stale : forall n, (s.along course n).isFresh = false
  keeps : forall n, (course n).keepsConsole = true
  fair : Fair course

/-- The console has taken the first line that quits. -/
def FinishedAt (s : Monitor) : Prop :=
  exists rest, s.console = some ⟨⟨rest, .finished⟩, none⟩

section Along

variable {past : List Scene} {given : List String} {s : Monitor} {course : Nat -> Happening}
  (hTalk : Talk past given s course)

include hTalk

theorem along_cases {n : Nat} {worker : Worker Console.Session}
    (hConsole : (s.along course n).console = some worker) :
    ((s.along course (n + 1)).console = some worker ∧
        (s.along course (n + 1)).consoleTicket = (s.along course n).consoleTicket) ∨
      exists event result served,
        ConsoleMoves (s.along course n) worker event result served (s.along course (n + 1)) := by
  have hHappens := console_happens (s := s.along course n) (hTalk.keeps n)
  rw [← along_succ] at hHappens
  generalize course n = h at hHappens
  generalize s.along course (n + 1) = next at hHappens ⊢
  cases hHappens with
  | apart hApart => exact Or.inl ⟨hApart.console.trans hConsole, hApart.consoleTicket⟩
  | moves hMoves =>
      cases hMoves.console.symm.trans hConsole
      exact Or.inr ⟨_, _, _, hMoves⟩

theorem next_along {n : Nat} {first : String} {rest : List String}
    (h : (s.along course n).ReadyAt (first :: rest)) :
    exists m, n < m ∧ exists phase pending,
      (s.along course m).console = some ⟨⟨rest, phase⟩, pending⟩ := by
  have hStep (k : Nat) (hReady : (s.along course k).ReadyAt (first :: rest)) :
      (exists phase pending, (s.along course (k + 1)).console = some ⟨⟨rest, phase⟩, pending⟩) ∨
        (s.along course (k + 1)).ReadyAt (first :: rest) := by
    rcases along_cases hTalk hReady with ⟨hSame, _⟩ | ⟨_, _, _, hMoves⟩
    · exact Or.inr hSame
    · exact Or.inl (next_taken hMoves)
  have hTurn (k : Nat) (hReady : (s.along course k).ReadyAt (first :: rest)) (_ : True)
      (hCourse : course k = .turn .console) :
      exists phase pending, (s.along course (k + 1)).console = some ⟨⟨rest, phase⟩, pending⟩ := by
    rcases console_served hReady rfl with ⟨result, hMoves⟩
    rw [along_succ, hCourse]
    exact next_taken hMoves
  exact turn_reaches hTalk.fair hStep hTurn h ⟨n, Nat.le_refl n, fun _ _ => trivial⟩

theorem calling_along {n due : Nat} {rest : List String} {snapshot : Snapshot}
    {action : Console.PumpAction} {call : Call} (hCalls : Calls snapshot action call)
    (h : (s.along course n).console = some ⟨⟨rest, .calling action⟩, some ⟨call, due⟩⟩) :
    exists m, n < m ∧ (s.along course m).ReadyAt rest := by
  have hStep (k : Nat)
      (hWaits : (s.along course k).console = some ⟨⟨rest, .calling action⟩, some ⟨call, due⟩⟩) :
      (s.along course (k + 1)).ReadyAt rest ∨
        (s.along course (k + 1)).console = some ⟨⟨rest, .calling action⟩, some ⟨call, due⟩⟩ := by
    rcases along_cases hTalk hWaits with ⟨hSame, _⟩ | ⟨_, _, _, hMoves⟩
    · exact Or.inr hSame
    · exact Or.inl (ready_called hCalls hMoves)
  have hTurn (k : Nat)
      (hWaits : (s.along course k).console = some ⟨⟨rest, .calling action⟩, some ⟨call, due⟩⟩)
      (hDue : (Pending.mk call due).due ≤ (s.along course k).now)
      (hCourse : course k = .turn .console) : (s.along course (k + 1)).ReadyAt rest := by
    have hEvent : exists event served, (s.along course k).consoleEvent?
        ⟨⟨rest, .calling action⟩, some ⟨call, due⟩⟩ = some (event, served) :=
      ⟨_, _, by simp only [consoleEvent?, reply?_due hDue, Option.map_some]; rfl⟩
    rcases hEvent with ⟨event, served, hEvent⟩
    rcases console_served hWaits hEvent with ⟨result, hMoves⟩
    rw [along_succ, hCourse]
    exact ready_called hCalls hMoves
  exact turn_reaches hTalk.fair hStep hTurn h (due_along s hTalk.fair due n)

/-!
## An order is answered
-/

theorem outcome_along {n m ticket : Nat} (hLater : n ≤ m) {outcome : Except Fault Unit}
    (h : outcomeOf (s.along course n).results ticket = some outcome) :
    outcomeOf (s.along course m).results ticket = some outcome := by
  induction hLater with
  | refl => exact h
  | @step m _ ih =>
      have hMail := hTalk.mail m
      rw [along_succ]
      exact outcome_stands
        (addsResults_happen hMail.order hMail.idle hMail.rendezvous (course m)) ih

/-- Whether it was put into a mailbox or refused, there comes an answer for the console. -/
theorem answered_along {n : Nat} {sent : Scene} {order : Console.Order}
    (hSent : sent ∈ past ++ s.scenes ((List.range n).map course))
    (hOrder : sent.order? = some order) (hTicketed : Ticketed (s.along course n) sent order) :
    exists m, n ≤ m ∧ forall k, m ≤ k -> exists outcome,
      outcomeOf (s.along course k).results (s.along course n).consoleTicket = some outcome := by
  unfold Ticketed at hTicketed
  cases hTicket : (sent.before.send order).1 with
  | error fault =>
      rw [hTicket] at hTicketed
      exact ⟨n, Nat.le_refl n, fun k hLater => ⟨_, outcome_along hTalk hLater hTicketed⟩⟩
  | ok ticket =>
      rw [hTicket] at hTicketed
      dsimp only at hTicketed
      have hPost : ⟨order, ticket⟩ ∈ posts (past ++ s.scenes ((List.range n).map course)) :=
        List.mem_filterMap.mpr ⟨sent, hSent, by simp [Scene.post?, hOrder, hTicket]⟩
      rcases told_along hTalk.mail hTalk.stale hTalk.fair hPost with ⟨m, hLater, outcome, hTold⟩
      rw [hTicketed]
      exact ⟨m, hLater, fun k hMore => ⟨outcome, outcome_along hTalk hMore hTold⟩⟩

theorem ordering_along {n : Nat} {rest : List String} {success : String} {sent : Scene}
    {order : Console.Order}
    (h : (s.along course n).console = some ⟨⟨rest, .ordering success⟩, none⟩)
    (hSent : sent ∈ past ++ s.scenes ((List.range n).map course))
    (hOrder : sent.order? = some order) (hTicketed : Ticketed (s.along course n) sent order) :
    exists m, n < m ∧ (s.along course m).ReadyAt rest := by
  generalize hTicket : (s.along course n).consoleTicket = ticket
  have hStep (k : Nat)
      (hWaits : (s.along course k).console = some ⟨⟨rest, .ordering success⟩, none⟩ ∧
        (s.along course k).consoleTicket = ticket) :
      (s.along course (k + 1)).ReadyAt rest ∨
        ((s.along course (k + 1)).console = some ⟨⟨rest, .ordering success⟩, none⟩ ∧
          (s.along course (k + 1)).consoleTicket = ticket) := by
    rcases along_cases hTalk hWaits.1 with ⟨hSame, hSameTicket⟩ | ⟨_, _, _, hMoves⟩
    · exact Or.inr ⟨hSame, hSameTicket.trans hWaits.2⟩
    · exact Or.inl (ready_ordered hMoves)
  have hTurn (k : Nat)
      (hWaits : (s.along course k).console = some ⟨⟨rest, .ordering success⟩, none⟩ ∧
        (s.along course k).consoleTicket = ticket)
      (hTold : exists outcome, outcomeOf (s.along course k).results ticket = some outcome)
      (hCourse : course k = .turn .console) : (s.along course (k + 1)).ReadyAt rest := by
    rcases hTold with ⟨outcome, hOutcome⟩
    rcases Option.map_eq_some_iff.mp hOutcome with ⟨result, hResult, _⟩
    have hEvent : (s.along course k).consoleEvent? ⟨⟨rest, .ordering success⟩, none⟩ =
        ((s.along course k).result? (s.along course k).consoleTicket).map fun result =>
          (.ordered result.outcome, s.along course k) := rfl
    rw [hWaits.2, result?, hResult, Option.map_some] at hEvent
    rcases console_served hWaits.1 hEvent with ⟨result, hMoves⟩
    rw [along_succ, hCourse]
    exact ready_ordered hMoves
  have hAnswered := answered_along hTalk hSent hOrder hTicketed
  rw [hTicket] at hAnswered
  exact turn_reaches hTalk.fair hStep hTurn ⟨h, hTicket⟩ hAnswered

/-!
## To the line that quits
-/

theorem ready_along {n : Nat} {rest : List String} {phase : Console.Phase}
    {pending : Option Pending}
    (h : (s.along course n).console = some ⟨⟨rest, phase⟩, pending⟩) :
    exists m, n ≤ m ∧ ((s.along course m).FinishedAt ∨ (s.along course m).ReadyAt rest) := by
  rcases hTalk.conversed n with ⟨rounds, worker, line, begun, hNow⟩
  have hOccupied := hNow.occupied
  cases hNow.console.symm.trans h
  cases hOccupied with
  | ready => exact ⟨n, Nat.le_refl n, Or.inr h⟩
  | ordering hRead hOrders hSent hSends hTicketed =>
      rcases ordering_along hTalk h hSent (order_of_effects hSends) hTicketed with
        ⟨m, hLater, hReady⟩
      exact ⟨m, Nat.le_of_lt hLater, Or.inr hReady⟩
  | calling hRead hCalls hAsks =>
      rcases calling_along hTalk hCalls h with ⟨m, hLater, hReady⟩
      exact ⟨m, Nat.le_of_lt hLater, Or.inr hReady⟩
  | finished hRead hDoes => exact ⟨n, Nat.le_refl n, Or.inl ⟨_, h⟩⟩

theorem ready_before_quit {n : Nat} {rest : List String} (h : (s.along course n).ReadyAt rest)
    {line : String} (hLine : line ∈ given) (hQuit : Command.read line = .ok .quit) :
    line ∈ rest := by
  rcases hTalk.conversed n with ⟨rounds, worker, under, begun, hNow⟩
  have hOccupied := hNow.occupied
  have hLines := hNow.lines
  cases hNow.console.symm.trans h
  cases hOccupied
  rw [hLines] at hLine
  rcases List.mem_append.mp hLine with hDone | hLeft
  · rcases List.mem_map.mp hDone with ⟨round, hRound, rfl⟩
    exact absurd hQuit (served_not_quit (hNow.served round hRound))
  · simpa using hLeft

theorem finishes_along {line : String} (hLine : line ∈ given)
    (hQuit : Command.read line = .ok .quit) {rest : List String} {n : Nat}
    {phase : Console.Phase} {pending : Option Pending}
    (h : (s.along course n).console = some ⟨⟨rest, phase⟩, pending⟩) :
    exists m, (s.along course m).FinishedAt := by
  induction rest generalizing n phase pending with
  | nil =>
      rcases ready_along hTalk h with ⟨m, _, hFinished | hReady⟩
      · exact ⟨m, hFinished⟩
      · cases ready_before_quit hTalk hReady hLine hQuit
  | cons first rest ih =>
      rcases ready_along hTalk h with ⟨m, _, hFinished | hReady⟩
      · exact ⟨m, hFinished⟩
      · rcases next_along hTalk hReady with ⟨_, _, _, _, hNext⟩
        exact ih hNext

theorem finished_along {n m : Nat} (hLater : n ≤ m) {rest : List String}
    (h : (s.along course n).console = some ⟨⟨rest, .finished⟩, none⟩) :
    (s.along course m).console = some ⟨⟨rest, .finished⟩, none⟩ := by
  induction hLater with
  | refl => exact h
  | step _ ih =>
      rcases along_cases hTalk ih with ⟨hSame, _⟩ | ⟨_, _, _, hMoves⟩
      · exact hSame
      · exact absurd hMoves not_moves_finished

end Along

end Monitor
end TubMonitor
