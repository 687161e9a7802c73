import TubMonitor.Proofs.Mail.Rendezvous

/-!
# Verdicts that stand

Whoever has been told how a command came out is never told otherwise: results are
given only for commands that have none yet.
-/

namespace TubMonitor
namespace Monitor

def AddsResults (s next : Monitor) : Prop :=
  exists added, next.results = added ++ s.results ∧
    forall result, result ∈ added -> verdictOf s.results result.ticket = none

theorem addsResults_none {s next : Monitor} (h : next.results = s.results) :
    AddsResults s next :=
  ⟨[], h, by simp⟩

theorem verdictOf_closed {α : Type} {posted held : List (Letter α)}
    {answered lost : List (Nat × Letter α)} {box : Mailbox α} {s : Monitor}
    (hLedger : Ledger posted box s.results answered held lost) {result : Result}
    (hResult : result ∈ s.stoppedNow (box.pending.map Letter.ticket).reverse) :
    verdictOf s.results result.ticket = none := by
  rcases closed_letter hResult with ⟨letter, hLetter, hSame⟩
  rw [← hSame]
  exact hLedger.unanswered letter (List.mem_append_right _ hLetter)

theorem ozone_addsResults {past : List Scene} {s served : Monitor} {event : Ozone.Event}
    (hOrder : InOrder s)
    (hIdle : s.ozone.state.phase = .waiting none -> s.ozone.state.shown.running = false)
    (hRendezvous : Rendezvous past s) (hEvent : s.ozoneEvent? = some (event, served)) :
    AddsResults s (served.handOzone event) := by
  have hServes := ozoneEvent_serves hEvent
  rcases Ozone.Controller.move_answers hIdle (ozone_move hOrder hServes) with ⟨acked, hAnswers⟩
  rcases hRendezvous.ozone with ⟨answered, lost, hLedger, _⟩
  have hServed := ozoneServes_ledger hServes hAnswers.free hLedger
  rw [hAnswers.kept] at hServed
  rcases ozoneServes_eq hServes with ⟨outside, box, rfl⟩
  refine ⟨s.turnResults (s.ozone.state.step s.now event).1.hasEnded box
    (ticketsOf (s.ozone.state.step s.now event).2), ?_, ?_⟩
  · rw [handOzone_results, turnResults, List.append_assoc]
    rfl
  · intro result hResult
    rcases turnResults_letter hAnswers.tickets hResult with ⟨letter, hLetter, hSame⟩
    rw [← hSame]
    exact hServed.unanswered letter hLetter

theorem temperature_addsResults {past : List Scene} {s served : Monitor}
    {event : Temperature.Event} (hOrder : InOrder s) (hRendezvous : Rendezvous past s)
    (hEvent : s.temperatureEvent? = some (event, served)) :
    AddsResults s (served.handTemperature event) := by
  have hServes := temperatureEvent_serves hEvent
  have hTickets := Temperature.Sampler.move_tickets (temperature_move hOrder hServes)
  rcases hRendezvous.target with ⟨answered, lost, hLedger, _⟩
  have hServed := temperatureServes_ledger hServes hLedger
  rw [← List.append_nil event.letters] at hServed
  rcases temperatureServes_eq hServes with ⟨outside, box, rfl⟩
  refine ⟨s.turnResults (s.temperature.state.step s.now event).1.hasEnded box
    (ticketsOf (s.temperature.state.step s.now event).2), ?_, ?_⟩
  · rw [handTemperature_results, turnResults, List.append_assoc]
    rfl
  · intro result hResult
    rcases turnResults_letter hTickets hResult with ⟨letter, hLetter, hSame⟩
    rw [← hSame]
    exact hServed.unanswered letter hLetter

theorem start_addsResults {past : List Scene} {s : Monitor} (hRendezvous : Rendezvous past s)
    (hFresh : s.isFresh = true) : AddsResults s s.start.2 := by
  have hStart := start_fresh hFresh
  dsimp only at hStart
  split at hStart
  · rcases hRendezvous.target with ⟨answered, lost, hLedger, _⟩
    exact ⟨_, by rw [hStart], fun result hResult => verdictOf_closed hLedger hResult⟩
  · exact addsResults_none (by rw [hStart])

theorem cancel_addsResults {past : List Scene} {s : Monitor} (hRendezvous : Rendezvous past s) :
    AddsResults s s.cancel := by
  cases hFresh : s.isFresh with
  | false => exact addsResults_none (by rw [cancel_stale hFresh])
  | true =>
      rcases hRendezvous.ozone with ⟨answered, lost, hLedger, _⟩
      rcases hRendezvous.target with ⟨targetAnswered, targetLost, hTargetLedger, _⟩
      refine ⟨_, by rw [cancel_fresh hFresh, ← List.append_assoc], ?_⟩
      intro result hResult
      rcases List.mem_append.mp hResult with hTarget | hOzone
      · exact verdictOf_closed hTargetLedger hTarget
      · exact verdictOf_closed hLedger hOzone

theorem console_addsResults {past : List Scene} {s served next : Monitor}
    {console : Worker Console.Session} {event : Console.Event} {state : Console.Session}
    {effects : List Console.Effect} (hRendezvous : Rendezvous past s)
    (hConsole : s.console = some console)
    (hEvent : s.consoleEvent? console = some (event, served))
    (hActs : ConsoleActs served state effects next) : AddsResults s next := by
  rcases consoleEvent_outside hConsole hEvent with ⟨outside, rfl, _⟩
  cases hActs with
  | sent hSent =>
      rcases (send_ok hSent).2 with ⟨_, _, _, _, _, rfl⟩ | ⟨_, _, _, _, _, rfl⟩
      · exact addsResults_none rfl
      · exact addsResults_none rfl
  | @refused order fault hRefused =>
      refine ⟨[⟨s.nextTicket, s.now, .error fault⟩], rfl, ?_⟩
      intro result hResult
      rw [List.mem_singleton.mp hResult]
      exact verdictOf_fresh hRendezvous
  | _ => exact addsResults_none rfl

theorem addsResults_happen {past : List Scene} {s : Monitor} (hOrder : InOrder s)
    (hIdle : s.ozone.state.phase = .waiting none -> s.ozone.state.shown.running = false)
    (hRendezvous : Rendezvous past s) (h : Happening) : AddsResults s (s.happen h) := by
  have hHappens := happens s h
  generalize s.happen h = next at hHappens
  cases hHappens with
  | ozone hEvent => exact ozone_addsResults hOrder hIdle hRendezvous hEvent
  | leak hEvent =>
      have hTickets := Leak.Watch.move_tickets (leak_move hOrder (leakEvent_serves hEvent))
      rcases leakServes_eq (leakEvent_serves hEvent) with ⟨outside, rfl⟩
      apply addsResults_none
      rw [handLeak_results]
      dsimp only
      rw [hTickets]
      rfl
  | temperature hEvent => exact temperature_addsResults hOrder hRendezvous hEvent
  | notices hStarted hRunning hActs => cases hActs <;> exact addsResults_none rfl
  | console hConsole hEvent hStep hActs =>
      exact console_addsResults hRendezvous hConsole hEvent hActs
  | start hFresh => exact start_addsResults hRendezvous hFresh
  | cancel => exact cancel_addsResults hRendezvous
  | sent hSent =>
      rcases (send_ok hSent).2 with ⟨_, _, _, _, _, rfl⟩ | ⟨_, _, _, _, _, rfl⟩
      · exact addsResults_none rfl
      · exact addsResults_none rfl
  | _ => exact addsResults_none rfl

theorem verdict_stands {s next : Monitor} (hAdds : AddsResults s next) {ticket : Nat}
    {verdict : Nat × Except Fault Unit} (h : verdictOf s.results ticket = some verdict) :
    verdictOf next.results ticket = some verdict := by
  rcases hAdds with ⟨added, hResults, hNew⟩
  rw [hResults, verdictOf_other]
  · exact h
  · rintro result hResult rfl
    rw [hNew result hResult] at h
    cases h

theorem outcome_stands {s next : Monitor} (hAdds : AddsResults s next) {ticket : Nat}
    {outcome : Except Fault Unit} (h : outcomeOf s.results ticket = some outcome) :
    outcomeOf next.results ticket = some outcome := by
  rw [outcomeOf_verdict, Option.map_eq_some_iff] at h ⊢
  rcases h with ⟨verdict, hVerdict, hOutcome⟩
  exact ⟨verdict, verdict_stands hAdds hVerdict, hOutcome⟩

end Monitor
end TubMonitor
