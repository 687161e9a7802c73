import TubMonitor.Proofs.Turns

/-!
# Ledgers

The ledger of a channel accounts for every letter that was ever posted to it, in the
order of posting: the ones that were taken and answered, the one that is in hand, the
ones that wait, and the ones that were lost when the mailbox was closed.
-/

namespace TubMonitor
namespace Monitor

/-!
## Outcomes
-/

/-- How the command with the ticket came out, if it has. -/
def outcomeOf (results : List Result) (ticket : Nat) : Option (Except Fault Unit) :=
  (results.find? fun result => result.ticket == ticket).map Result.outcome

def verdictOf (results : List Result) (ticket : Nat) : Option (Nat × Except Fault Unit) :=
  (results.find? fun result => result.ticket == ticket).map fun result =>
    (result.moment, result.outcome)

theorem outcomeOf_verdict (results : List Result) (ticket : Nat) :
    outcomeOf results ticket = (verdictOf results ticket).map Prod.snd := by
  rw [outcomeOf, verdictOf, Option.map_map]
  rfl

theorem verdictOf_nil (ticket : Nat) : verdictOf [] ticket = none := rfl

theorem verdictOf_other {added : List Result} (results : List Result) {ticket : Nat}
    (h : forall result, result ∈ added -> result.ticket ≠ ticket) :
    verdictOf (added ++ results) ticket = verdictOf results ticket := by
  have hNone : added.find? (fun result => result.ticket == ticket) = none := by
    rw [List.find?_eq_none]
    intro result hResult
    simpa using h result hResult
  rw [verdictOf, List.find?_append, hNone, Option.none_or, verdictOf]

theorem verdictOf_alike {added results : List Result} {ticket : Nat}
    {verdict : Nat × Except Fault Unit} (hTicket : ticket ∈ added.map Result.ticket)
    (hAlike : forall result, result ∈ added -> (result.moment, result.outcome) = verdict) :
    verdictOf (added ++ results) ticket = some verdict := by
  rcases List.mem_map.mp hTicket with ⟨result, hResult, hSame⟩
  have hFound : (added.find? fun result => result.ticket == ticket).isSome = true := by
    rw [List.find?_isSome]
    exact ⟨result, hResult, by simp [hSame]⟩
  rcases Option.isSome_iff_exists.mp hFound with ⟨first, hFirst⟩
  rw [verdictOf, List.find?_append, hFirst, Option.some_or, Option.map_some,
    hAlike first (List.mem_of_find?_eq_some hFirst)]

@[simp] theorem tickets_acknowledgedNow (s : Monitor) (tickets : List Nat) :
    (s.acknowledgedNow tickets).map Result.ticket = tickets := by
  simp [acknowledgedNow, Function.comp_def]

@[simp] theorem tickets_stoppedNow (s : Monitor) (tickets : List Nat) :
    (s.stoppedNow tickets).map Result.ticket = tickets := by
  simp [stoppedNow, Function.comp_def]

theorem verdict_acknowledgedNow {s : Monitor} {tickets : List Nat} {result : Result}
    (h : result ∈ s.acknowledgedNow tickets) :
    (result.moment, result.outcome) = (s.now, .ok ()) := by
  rcases List.mem_map.mp h with ⟨_, _, rfl⟩
  rfl

theorem verdict_stoppedNow {s : Monitor} {tickets : List Nat} {result : Result}
    (h : result ∈ s.stoppedNow tickets) :
    (result.moment, result.outcome) = (s.now, .error .monitorStopped) := by
  rcases List.mem_map.mp h with ⟨_, _, rfl⟩
  rfl

/-!
## The ledger

What has been answered or lost is entered with the moment at which it was.
-/

section Ledger

variable {α : Type}

/-- Letters with the moment at which they are done with. -/
def dated (moment : Nat) (letters : List (Letter α)) : List (Nat × Letter α) :=
  letters.map fun letter => (moment, letter)

@[simp] theorem letters_dated (moment : Nat) (letters : List (Letter α)) :
    (dated moment letters).map Prod.snd = letters := by
  simp [dated, Function.comp_def]

theorem moments_dated (moment : Nat) (letters : List (Letter α)) :
    (dated moment letters).map Prod.fst = letters.map fun _ => moment := by
  simp [dated, Function.comp_def]

theorem mem_dated {moment : Nat} {letters : List (Letter α)} {entry : Nat × Letter α} :
    entry ∈ dated moment letters ↔ entry.1 = moment ∧ entry.2 ∈ letters := by
  rw [dated, List.mem_map]
  constructor
  · rintro ⟨letter, hLetter, rfl⟩
    exact ⟨rfl, hLetter⟩
  · rintro ⟨rfl, hLetter⟩
    exact ⟨entry.2, hLetter, rfl⟩

structure Ledger (posted : List (Letter α)) (box : Mailbox α) (results : List Result)
    (answered : List (Nat × Letter α)) (held : List (Letter α))
    (lost : List (Nat × Letter α)) : Prop where
  letters : posted = answered.map Prod.snd ++ held ++ box.pending ++ lost.map Prod.snd
  unlost : box.isOpen = true -> lost = []
  cleared : box.isOpen = false -> box.pending = []
  distinct : (posted.map Letter.ticket).Nodup
  answered : forall entry, entry ∈ answered ->
    verdictOf results entry.2.ticket = some (entry.1, .ok ())
  unanswered : forall letter, letter ∈ held ++ box.pending ->
    verdictOf results letter.ticket = none
  lost : forall entry, entry ∈ lost ->
    verdictOf results entry.2.ticket = some (entry.1, .error .monitorStopped)

variable {posted held : List (Letter α)} {answered lost : List (Nat × Letter α)}
  {box next : Mailbox α} {results : List Result}

theorem ledger_empty : Ledger ([] : List (Letter α)) .empty [] [] [] [] where
  letters := rfl
  unlost := fun _ => rfl
  cleared := fun _ => rfl
  distinct := List.nodup_nil
  answered := by simp
  unanswered := by simp [Mailbox.empty, Mailbox.pending]
  lost := by simp

theorem ledger_mem (h : Ledger posted box results answered held lost) {letter : Letter α} :
    letter ∈ posted ↔
      letter ∈ answered.map Prod.snd ∨ letter ∈ held ++ box.pending ∨
        letter ∈ lost.map Prod.snd := by
  rw [h.letters]
  simp only [List.mem_append]
  tauto

theorem ledger_answered (h : Ledger posted box results answered held lost)
    {entry : Nat × Letter α} (hEntry : entry ∈ answered) : entry.2 ∈ posted :=
  (ledger_mem h).mpr (Or.inl (List.mem_map_of_mem hEntry))

theorem ledger_lost (h : Ledger posted box results answered held lost)
    {entry : Nat × Letter α} (hEntry : entry ∈ lost) : entry.2 ∈ posted :=
  (ledger_mem h).mpr (Or.inr (Or.inr (List.mem_map_of_mem hEntry)))

theorem ledger_undone (h : Ledger posted box results answered held lost) :
    ((held ++ box.pending).map Letter.ticket).Nodup := by
  have hPart : (held ++ box.pending).Sublist posted := by
    rw [h.letters, List.append_assoc (answered.map Prod.snd)]
    exact (List.sublist_append_right _ _).trans (List.sublist_append_left _ _)
  exact h.distinct.sublist (hPart.map _)

theorem ledger_other {added : List Result}
    (h : Ledger posted box results answered held lost)
    (hOther : forall result, result ∈ added -> result.ticket ∉ posted.map Letter.ticket) :
    Ledger posted box (added ++ results) answered held lost := by
  have hSame : forall letter, letter ∈ posted ->
      verdictOf (added ++ results) letter.ticket = verdictOf results letter.ticket := by
    intro letter hLetter
    apply verdictOf_other results
    intro result hResult hTicket
    exact hOther result hResult (hTicket ▸ List.mem_map_of_mem hLetter)
  refine
    { letters := h.letters
      unlost := h.unlost
      cleared := h.cleared
      distinct := h.distinct
      answered := ?_
      unanswered := ?_
      lost := ?_ }
  · intro entry hEntry
    rw [hSame entry.2 (ledger_answered h hEntry)]
    exact h.answered entry hEntry
  · intro letter hLetter
    rw [hSame letter ((ledger_mem h).mpr (Or.inr (Or.inl hLetter)))]
    exact h.unanswered letter hLetter
  · intro entry hEntry
    rw [hSame entry.2 (ledger_lost h hEntry)]
    exact h.lost entry hEntry

theorem ledger_refill (h : Ledger posted box results answered held lost)
    (hRefill : box.refill? = some next) : Ledger posted next results answered held lost := by
  have hPending := Mailbox.pending_refill hRefill
  have hOpen := Mailbox.isOpen_refill hRefill
  exact
    { letters := by rw [hPending]; exact h.letters
      unlost := by rw [hOpen]; exact h.unlost
      cleared := by rw [hOpen, hPending]; exact h.cleared
      distinct := h.distinct
      answered := h.answered
      unanswered := by rw [hPending]; exact h.unanswered
      lost := h.lost }

theorem ledger_post {letter : Letter α} (h : Ledger posted box results answered held lost)
    (hSend : box.send? letter = some next) (hNew : letter.ticket ∉ posted.map Letter.ticket)
    (hUnanswered : verdictOf results letter.ticket = none) :
    Ledger (posted ++ [letter]) next results answered held lost := by
  have hPending := Mailbox.pending_send hSend
  have hOpen := Mailbox.isOpen_send hSend
  have hLost := h.unlost hOpen.1
  refine
    { letters := by simp [h.letters, hPending, hLost]
      unlost := fun _ => hLost
      cleared := fun hShut => by simp [hOpen.2] at hShut
      distinct := ?_
      answered := h.answered
      unanswered := ?_
      lost := h.lost }
  · rw [List.map_append, List.nodup_append]
    refine ⟨h.distinct, by simp, ?_⟩
    intro ticket hTicket other hOther hSame
    rw [List.map_singleton, List.mem_singleton] at hOther
    exact hNew (hOther ▸ hSame ▸ hTicket)
  · intro other hOther
    rw [hPending, ← List.append_assoc, List.mem_append, List.mem_singleton] at hOther
    rcases hOther with hBefore | rfl
    · exact h.unanswered other hBefore
    · exact hUnanswered

theorem ledger_take {letter : Letter α} (h : Ledger posted box results answered [] lost)
    (hTake : box.take? = some (letter, next)) :
    Ledger posted next results answered [letter] lost := by
  have hPending := Mailbox.pending_take hTake
  have hOpen := Mailbox.isOpen_take hTake
  exact
    { letters := by simpa [hPending] using h.letters
      unlost := by rw [hOpen]; exact h.unlost
      cleared := by
        intro hShut
        rw [hOpen] at hShut
        have hEmpty := h.cleared hShut
        rw [hPending] at hEmpty
        cases hEmpty
      distinct := h.distinct
      answered := h.answered
      unanswered := by simpa [hPending] using h.unanswered
      lost := h.lost }

theorem ledger_answer {acked : List (Letter α)} {added : List Result} {moment : Nat}
    (h : Ledger posted box results answered (acked ++ held) lost)
    (hTickets : forall ticket, ticket ∈ added.map Result.ticket ↔
      ticket ∈ acked.map Letter.ticket)
    (hOk : forall result, result ∈ added -> (result.moment, result.outcome) = (moment, .ok ())) :
    Ledger posted box (added ++ results) (answered ++ dated moment acked) held lost := by
  have hDistinct := h.distinct
  rw [h.letters] at hDistinct
  have hOther {letter : Letter α} (hFree : letter.ticket ∉ acked.map Letter.ticket) :
      verdictOf (added ++ results) letter.ticket = verdictOf results letter.ticket := by
    apply verdictOf_other results
    intro result hResult hSame
    exact hFree ((hTickets _).mp (hSame ▸ List.mem_map_of_mem hResult))
  simp only [List.map_append, List.append_assoc, List.nodup_append, List.mem_append] at hDistinct
  refine
    { letters := by simpa using h.letters
      unlost := h.unlost
      cleared := h.cleared
      distinct := h.distinct
      answered := ?_
      unanswered := ?_
      lost := ?_ }
  · intro entry hEntry
    rcases List.mem_append.mp hEntry with hBefore | hNow
    · rw [hOther]
      · exact h.answered entry hBefore
      · intro hAcked
        have hTicket := List.mem_map_of_mem (f := Letter.ticket)
          (List.mem_map_of_mem (f := Prod.snd) hBefore)
        exact hDistinct.2.2 _ hTicket _ (Or.inl hAcked) rfl
    · rw [mem_dated] at hNow
      rw [hNow.1]
      exact verdictOf_alike ((hTickets _).mpr (List.mem_map_of_mem hNow.2)) hOk
  · intro letter hLetter
    rw [hOther]
    · exact h.unanswered letter (List.append_assoc acked held _ ▸ List.mem_append_right _ hLetter)
    · intro hAcked
      refine hDistinct.2.1.2.2 _ hAcked letter.ticket ?_ rfl
      rcases List.mem_append.mp hLetter with hHeld | hWaits
      · exact Or.inl (List.mem_map_of_mem hHeld)
      · exact Or.inr (Or.inl (List.mem_map_of_mem hWaits))
  · intro entry hEntry
    rw [hOther]
    · exact h.lost entry hEntry
    · intro hAcked
      have hTicket := List.mem_map_of_mem (f := Letter.ticket)
        (List.mem_map_of_mem (f := Prod.snd) hEntry)
      exact hDistinct.2.1.2.2 _ hAcked _ (Or.inr (Or.inr hTicket)) rfl

theorem ledger_close {added : List Result} {moment : Nat}
    (h : Ledger posted box results answered held lost)
    (hTickets : forall ticket, ticket ∈ added.map Result.ticket ↔
      ticket ∈ box.pending.map Letter.ticket)
    (hStopped : forall result, result ∈ added ->
      (result.moment, result.outcome) = (moment, .error .monitorStopped)) :
    Ledger posted .closed (added ++ results) answered held
      (lost ++ dated moment box.pending) := by
  have hDistinct := h.distinct
  rw [h.letters] at hDistinct
  have hOther {letter : Letter α} (hFree : letter.ticket ∉ box.pending.map Letter.ticket) :
      verdictOf (added ++ results) letter.ticket = verdictOf results letter.ticket := by
    apply verdictOf_other results
    intro result hResult hSame
    exact hFree ((hTickets _).mp (hSame ▸ List.mem_map_of_mem hResult))
  -- Nothing is lost before the mailbox is closed, and nothing waits in it afterwards.
  have hLosses : box.pending ++ lost.map Prod.snd = lost.map Prod.snd ++ box.pending := by
    cases hOpen : box.isOpen with
    | true => simp [h.unlost hOpen]
    | false => simp [h.cleared hOpen]
  simp only [List.map_append, List.append_assoc, List.nodup_append, List.mem_append] at hDistinct
  refine
    { letters := by
        rw [h.letters, List.append_assoc, hLosses]
        simp [Mailbox.closed, Mailbox.pending]
      unlost := fun hOpen => by cases hOpen
      cleared := fun _ => rfl
      distinct := h.distinct
      answered := ?_
      unanswered := ?_
      lost := ?_ }
  · intro entry hEntry
    rw [hOther]
    · exact h.answered entry hEntry
    · intro hWaits
      have hTicket := List.mem_map_of_mem (f := Letter.ticket)
        (List.mem_map_of_mem (f := Prod.snd) hEntry)
      exact hDistinct.2.2 _ hTicket _ (Or.inr (Or.inl hWaits)) rfl
  · intro letter hLetter
    have hHeld : letter ∈ held := by simpa [Mailbox.closed, Mailbox.pending] using hLetter
    rw [hOther]
    · exact h.unanswered letter (List.mem_append_left _ hHeld)
    · intro hWaits
      exact hDistinct.2.1.2.2 _ (List.mem_map_of_mem hHeld) _ (Or.inl hWaits) rfl
  · intro entry hEntry
    rcases List.mem_append.mp hEntry with hBefore | hNow
    · rw [hOther]
      · exact h.lost entry hBefore
      · intro hWaits
        have hTicket := List.mem_map_of_mem (f := Letter.ticket)
          (List.mem_map_of_mem (f := Prod.snd) hBefore)
        exact hDistinct.2.1.2.1.2.2 _ hWaits _ hTicket rfl
    · rw [mem_dated] at hNow
      rw [hNow.1]
      exact verdictOf_alike ((hTickets _).mpr (List.mem_map_of_mem hNow.2)) hStopped

theorem ledger_closed (s : Monitor) (h : Ledger posted box results answered held lost) :
    Ledger posted .closed
      (s.stoppedNow (box.pending.map Letter.ticket).reverse ++ results) answered held
      (lost ++ dated s.now box.pending) := by
  refine ledger_close h ?_ (fun result hResult => verdict_stoppedNow hResult)
  intro ticket
  rw [tickets_stoppedNow, List.mem_reverse]

theorem closed_letter {s : Monitor} {result : Result}
    (hResult : result ∈ s.stoppedNow (box.pending.map Letter.ticket).reverse) :
    exists letter, letter ∈ box.pending ∧ letter.ticket = result.ticket := by
  have hTicket := List.mem_map_of_mem (f := Result.ticket) hResult
  rw [tickets_stoppedNow, List.mem_reverse] at hTicket
  exact List.mem_map.mp hTicket

theorem closed_posted {s : Monitor} (h : Ledger posted box results answered held lost)
    {result : Result} (hResult : result ∈ s.stoppedNow (box.pending.map Letter.ticket).reverse) :
    result.ticket ∈ posted.map Letter.ticket := by
  rcases closed_letter hResult with ⟨letter, hLetter, hSame⟩
  rw [← hSame]
  exact List.mem_map_of_mem
    ((ledger_mem h).mpr (Or.inr (Or.inl (List.mem_append_right _ hLetter))))

/-- The results that a turn adds: answers, and the letters lost if the loop has ended. -/
def turnResults (s : Monitor) (ended : Bool) (box : Mailbox α) (tickets : List Nat) :
    List Result :=
  (if ended then s.stoppedNow (box.pending.map Letter.ticket).reverse else []) ++
    s.acknowledgedNow tickets.reverse

theorem ledger_turn {acked : List (Letter α)} {tickets : List Nat} (s : Monitor) (ended : Bool)
    (hTickets : tickets = acked.map Letter.ticket)
    (h : Ledger posted box results answered (acked ++ held) lost) :
    Ledger posted (if ended then .closed else box)
      (s.turnResults ended box tickets ++ results) (answered ++ dated s.now acked) held
      (lost ++ dated s.now (if ended then box.pending else [])) := by
  have hAnswered : Ledger posted box (s.acknowledgedNow tickets.reverse ++ results)
      (answered ++ dated s.now acked) held lost := by
    refine ledger_answer h ?_ (fun result hResult => verdict_acknowledgedNow hResult)
    intro ticket
    rw [tickets_acknowledgedNow, List.mem_reverse, hTickets]
  cases ended with
  | false => simpa [turnResults, dated] using hAnswered
  | true =>
      rw [turnResults, if_pos rfl, if_pos rfl, if_pos rfl, List.append_assoc]
      exact ledger_closed s hAnswered

/-- A turn gives results to what was in hand and to what was waiting. -/
theorem turnResults_letter {acked : List (Letter α)} {tickets : List Nat} {s : Monitor}
    {ended : Bool} (hTickets : tickets = acked.map Letter.ticket) {result : Result}
    (hResult : result ∈ s.turnResults ended box tickets) :
    exists letter, letter ∈ acked ++ held ++ box.pending ∧ letter.ticket = result.ticket := by
  have hMember : result.ticket ∈ (acked ++ held ++ box.pending).map Letter.ticket := by
    have hTicket := List.mem_map_of_mem (f := Result.ticket) hResult
    rw [turnResults, List.map_append, List.mem_append, tickets_acknowledgedNow,
      List.mem_reverse, hTickets] at hTicket
    simp only [List.map_append, List.mem_append]
    rcases hTicket with hLost | hAcked
    · cases ended with
      | false => simp at hLost
      | true =>
          rw [if_pos rfl, tickets_stoppedNow, List.mem_reverse] at hLost
          exact Or.inr hLost
    · exact Or.inl (Or.inl hAcked)
  exact List.mem_map.mp hMember

theorem turnResults_posted {acked : List (Letter α)} {tickets : List Nat} (s : Monitor)
    (ended : Bool) (hTickets : tickets = acked.map Letter.ticket)
    (h : Ledger posted box results answered (acked ++ held) lost) :
    forall result, result ∈ s.turnResults ended box tickets ->
      result.ticket ∈ posted.map Letter.ticket := by
  intro result hResult
  rcases turnResults_letter hTickets hResult with ⟨letter, hLetter, hSame⟩
  rw [← hSame]
  exact List.mem_map_of_mem ((ledger_mem h).mpr (Or.inr (Or.inl hLetter)))

end Ledger

end Monitor
end TubMonitor
