import TubMonitor.Proofs.Fairness
import TubMonitor.Proofs.Mail.Verdicts
import TubMonitor.Proofs.Shutdown.Winding

/-!
# Desks

A loop that takes commands as those see it who wait for it: what lies in the mailbox, what
is in hand, and how much the loop has to do before it looks into the mailbox again.  The
rank of a command is its place in the line, and every step of the loop lowers it.
-/

namespace TubMonitor
namespace Monitor

/-!
## The room of a mailbox
-/

namespace Mailbox

variable {α : Type} {m next : Mailbox α} {letter : Letter α}

theorem slot_take (h : m.take? = some (letter, next)) : next.slot = none := by
  rcases Option.map_eq_some_iff.mp h with ⟨first, _, hNext⟩
  cases hNext
  rfl

theorem slot_refill (h : m.refill? = some next) : m.slot = none ∧ next.slot.isNone = false := by
  unfold refill? at h
  split at h
  · next hSlot _ =>
      cases h
      exact ⟨hSlot, rfl⟩
  · cases h

theorem slot_send (hWaits : m.pending ≠ []) (h : m.send? letter = some next) :
    next.slot = m.slot := by
  unfold send? at h
  split at h
  · split at h
    · next hFree =>
        simp only [Bool.and_eq_true, Option.isNone_iff_eq_none, List.isEmpty_iff] at hFree
        exact absurd (by simp [pending, hFree.1, hFree.2]) hWaits
    · cases h
      rfl
  · cases h

end Mailbox

/-!
## The view of a loop
-/

structure Desk (α : Type) where
  box : Mailbox α
  held : List (Letter α)
  /-- How much the loop has to do with what it has begun. -/
  load : Nat
  /-- When the call under way comes through. -/
  due : Nat

namespace Desk

variable {α : Type} {d next : Desk α} {ticket : Nat}

def letters (d : Desk α) : List (Letter α) :=
  d.held ++ d.box.pending

/-- The command is in hand or waits. -/
def Has (d : Desk α) (ticket : Nat) : Prop :=
  ticket ∈ d.letters.map Letter.ticket

def InHand (d : Desk α) (ticket : Nat) : Prop :=
  ticket ∈ d.held.map Letter.ticket

instance (d : Desk α) (ticket : Nat) : Decidable (d.InHand ticket) :=
  List.instDecidableMemOfLawfulBEq ticket _

/-- How many are taken before. -/
def ahead (d : Desk α) (ticket : Nat) : Nat :=
  d.box.pending.findIdx fun letter => letter.ticket == ticket

/-- The first in line has to step up before anything can be taken. -/
def stalls (d : Desk α) (ticket : Nat) : Bool :=
  !decide (d.InHand ticket) && d.box.slot.isNone

/--
A place in the line outweighs all that a loop can have to do with one command, and an
empty room outweighs it too.
-/
def rank (d : Desk α) (ticket : Nat) : Nat :=
  if d.InHand ticket then
    d.load
  else
    100 + 40 * d.ahead ticket + if d.box.slot.isNone then 30 else d.load

def helper (loop line : Turn) (d : Desk α) (ticket : Nat) : Helper :=
  if d.stalls ticket then ⟨line, 0⟩ else ⟨loop, d.due⟩

/-!
## Steps
-/

/-- The loop does something about what it has begun, takes a command, or ends. -/
inductive Works (d next : Desk α) : Prop where
  | onward (hBox : next.box = d.box) (hHeld : next.held ⊆ d.held) (hLoad : next.load < d.load) :
      Works d next
  | took {letter : Letter α} (hFree : d.held = [])
      (hTake : d.box.take? = some (letter, next.box)) (hHeld : next.held ⊆ [letter]) :
      Works d next
  | closed (hBox : next.box = .closed) (hHeld : next.held = []) : Works d next

/-- The loop is as busy as before, and with the same. -/
structure SameLoop (d next : Desk α) : Prop where
  held : next.held = d.held
  load : next.load = d.load
  due : next.due = d.due

inductive Steps (d next : Desk α) : Prop where
  | still (hBox : next.box = d.box) (hLoop : SameLoop d next) : Steps d next
  | posted {letter : Letter α} (hSend : d.box.send? letter = some next.box)
      (hLoop : SameLoop d next) : Steps d next
  | refilled (hRefill : d.box.refill? = some next.box) (hLoop : SameLoop d next) : Steps d next
  /-- With no command at hand the loop turns to something else. -/
  | busied (hEmpty : d.box.slot = none) (hBox : next.box = d.box) (hFree : d.held = [])
      (hHeld : next.held = []) : Steps d next
  | works (hWorks : Works d next) : Steps d next

theorem steps_refl (d : Desk α) : Steps d d := .still rfl ⟨rfl, rfl, rfl⟩

/-- The command is done with or comes nearer to it. -/
def Nears (d next : Desk α) (ticket : Nat) : Prop :=
  ¬ next.Has ticket ∨ next.rank ticket < d.rank ticket

theorem has_iff : d.Has ticket ↔
    d.InHand ticket ∨ ticket ∈ d.box.pending.map Letter.ticket := by
  rw [Has, letters, List.map_append, List.mem_append, InHand]

theorem not_stalls (h : d.stalls ticket = false) (hWaits : ¬ d.InHand ticket) :
    exists letter, d.box.slot = some letter := by
  simp only [stalls, hWaits, decide_false, Bool.not_false, Bool.true_and] at h
  cases hSlot : d.box.slot with
  | some letter => exact ⟨letter, rfl⟩
  | none =>
      rw [hSlot] at h
      cases h

theorem stalls_iff : d.stalls ticket = true ↔ ¬ d.InHand ticket ∧ d.box.slot = none := by
  simp [stalls]

theorem rank_inHand (h : d.InHand ticket) : d.rank ticket = d.load :=
  if_pos h

theorem rank_waiting (h : ¬ d.InHand ticket) :
    d.rank ticket = 100 + 40 * d.ahead ticket + if d.box.slot.isNone then 30 else d.load :=
  if_neg h

theorem not_has_of_inHand (hDistinct : (d.letters.map Letter.ticket).Nodup)
    (hInHand : d.InHand ticket) : ticket ∉ d.box.pending.map Letter.ticket := by
  rw [letters, List.map_append, List.nodup_append] at hDistinct
  exact fun hWaits => hDistinct.2.2 ticket hInHand ticket hWaits rfl

theorem onward_nears (hDistinct : (d.letters.map Letter.ticket).Nodup)
    (hReady : d.stalls ticket = false) (hBox : next.box = d.box)
    (hHeld : next.held ⊆ d.held) (hLoad : next.load < d.load) : Nears d next ticket := by
  by_cases hInHand : d.InHand ticket
  · by_cases hStill : next.InHand ticket
    · right
      rwa [rank_inHand hInHand, rank_inHand hStill]
    · left
      rw [has_iff, hBox]
      rintro (hNow | hWaits)
      · exact hStill hNow
      · exact not_has_of_inHand hDistinct hInHand hWaits
  · right
    have hStill : ¬ next.InHand ticket := fun hNow => hInHand (List.map_subset _ hHeld hNow)
    rcases not_stalls hReady hInHand with ⟨letter, hSlot⟩
    rw [rank_waiting hInHand, rank_waiting hStill, ahead, ahead, hBox, hSlot]
    simpa using hLoad

theorem took_nears {letter : Letter α} (hDistinct : (d.letters.map Letter.ticket).Nodup)
    (hLight : next.load ≤ 21) (hFree : d.held = [])
    (hTake : d.box.take? = some (letter, next.box)) (hHeld : next.held ⊆ [letter]) :
    Nears d next ticket := by
  have hPending := Mailbox.pending_take hTake
  have hRoom := Mailbox.slot_take hTake
  have hWaits : ¬ d.InHand ticket := by simp [InHand, hFree]
  rw [letters, hFree, List.nil_append, hPending, List.map_cons, List.nodup_cons] at hDistinct
  by_cases hOwn : letter.ticket = ticket
  · subst hOwn
    by_cases hTaken : next.InHand letter.ticket
    · right
      rw [rank_inHand hTaken, rank_waiting hWaits]
      omega
    · left
      rw [has_iff]
      rintro (hNow | hLater)
      · exact hTaken hNow
      · exact hDistinct.1 hLater
  · right
    have hStill : ¬ next.InHand ticket := by
      intro hNow
      rcases List.mem_map.mp hNow with ⟨other, hOther, hTicket⟩
      rw [List.mem_singleton.mp (hHeld hOther)] at hTicket
      exact hOwn hTicket
    have hAhead : d.ahead ticket = next.ahead ticket + 1 := by
      rw [ahead, hPending, List.findIdx_cons, beq_false_of_ne hOwn, cond_false, ahead]
    rw [rank_waiting hWaits, rank_waiting hStill, hAhead, hRoom]
    simp only [Option.isNone_none, if_true]
    omega

theorem closed_nears (hBox : next.box = .closed) (hHeld : next.held = []) :
    Nears d next ticket := by
  left
  simp [Has, letters, hBox, hHeld, Mailbox.closed, Mailbox.pending]

theorem works_nears (hDistinct : (d.letters.map Letter.ticket).Nodup) (hLight : next.load ≤ 21)
    (hReady : d.stalls ticket = false) (h : Works d next) : Nears d next ticket := by
  cases h with
  | onward hBox hHeld hLoad => exact onward_nears hDistinct hReady hBox hHeld hLoad
  | took hFree hTake hHeld => exact took_nears hDistinct hLight hFree hTake hHeld
  | closed hBox hHeld => exact closed_nears hBox hHeld

theorem inHand_same (hLoop : SameLoop d next) : next.InHand ticket ↔ d.InHand ticket := by
  rw [InHand, InHand, hLoop.held]

theorem refilled_nears (hLight : d.load ≤ 21) (hStalls : d.stalls ticket = true)
    (hRefill : d.box.refill? = some next.box) (hLoop : SameLoop d next) :
    Nears d next ticket := by
  have ⟨hWaits, hRoom⟩ := stalls_iff.mp hStalls
  have hStill : ¬ next.InHand ticket := fun hNow => hWaits ((inHand_same hLoop).mp hNow)
  have hFilled := (Mailbox.slot_refill hRefill).2
  right
  rw [rank_waiting hWaits, rank_waiting hStill, ahead, Mailbox.pending_refill hRefill, hRoom,
    hFilled, hLoop.load]
  simp only [Option.isNone_none, if_true, Bool.false_eq_true, if_false, ahead]
  omega

/-- Neither the rank nor the turn that is needed has changed. -/
structure Alike (loop line : Turn) (d next : Desk α) (ticket : Nat) : Prop where
  rank : next.rank ticket = d.rank ticket
  helper : helper loop line next ticket = helper loop line d ticket

theorem alike_waiting {loop line : Turn} (hWaits : ¬ d.InHand ticket)
    (hStill : ¬ next.InHand ticket) (hAhead : next.ahead ticket = d.ahead ticket)
    (hSlot : next.box.slot = d.box.slot)
    (hBusy : d.box.slot = none ∨ (next.load = d.load ∧ next.due = d.due)) :
    Alike loop line d next ticket := by
  rcases hBusy with hRoom | ⟨hLoad, hDue⟩
  · exact ⟨by simp [rank, hWaits, hStill, hAhead, hSlot, hRoom],
      by simp [helper, stalls, hWaits, hStill, hSlot, hRoom]⟩
  · exact ⟨by simp [rank, hWaits, hStill, hAhead, hSlot, hLoad],
      by simp [helper, stalls, hWaits, hStill, hSlot, hDue]⟩

theorem alike_inHand {loop line : Turn} (hInHand : d.InHand ticket) (hLoop : SameLoop d next) :
    Alike loop line d next ticket := by
  have hStill := (inHand_same hLoop).mpr hInHand
  exact ⟨by rw [rank_inHand hInHand, rank_inHand hStill, hLoop.load],
    by simp [helper, stalls, hInHand, hStill, hLoop.due]⟩

theorem posted_waiting {letter : Letter α} (hWaits : ticket ∈ d.box.pending.map Letter.ticket)
    (hSend : d.box.send? letter = some next.box) :
    next.ahead ticket = d.ahead ticket ∧ next.box.slot = d.box.slot := by
  have hPending := Mailbox.pending_send hSend
  rcases List.mem_map.mp hWaits with ⟨own, hOwn, hTicket⟩
  constructor
  · have hFound : d.ahead ticket < d.box.pending.length :=
      List.findIdx_lt_length_of_exists ⟨own, hOwn, by simp [hTicket]⟩
    rw [ahead, hPending, List.findIdx_append]
    exact if_pos hFound
  · exact Mailbox.slot_send (List.ne_nil_of_mem hOwn) hSend

theorem steps_nears (loop line : Turn) (hDistinct : (d.letters.map Letter.ticket).Nodup)
    (hLight : d.load ≤ 21) (hStillLight : next.load ≤ 21) (hHas : d.Has ticket)
    (h : Steps d next) : Nears d next ticket ∨ Alike loop line d next ticket := by
  by_cases hInHand : d.InHand ticket
  · cases h with
    | still hBox hLoop => exact Or.inr (alike_inHand hInHand hLoop)
    | posted hSend hLoop => exact Or.inr (alike_inHand hInHand hLoop)
    | refilled hRefill hLoop => exact Or.inr (alike_inHand hInHand hLoop)
    | busied hEmpty hBox hFree hHeld => simp [InHand, hFree] at hInHand
    | works hWorks =>
        have hReady : d.stalls ticket = false := by simp [stalls, hInHand]
        exact Or.inl (works_nears hDistinct hStillLight hReady hWorks)
  · have hWaits := (has_iff.mp hHas).resolve_left hInHand
    cases h with
    | still hBox hLoop =>
        have hStill := mt (inHand_same hLoop).mp hInHand
        exact Or.inr (alike_waiting hInHand hStill (by rw [ahead, hBox, ahead]) (by rw [hBox])
          (Or.inr ⟨hLoop.load, hLoop.due⟩))
    | posted hSend hLoop =>
        have hStill := mt (inHand_same hLoop).mp hInHand
        have ⟨hAhead, hSlot⟩ := posted_waiting hWaits hSend
        exact Or.inr (alike_waiting hInHand hStill hAhead hSlot
          (Or.inr ⟨hLoop.load, hLoop.due⟩))
    | refilled hRefill hLoop =>
        have hStalls := stalls_iff.mpr ⟨hInHand, (Mailbox.slot_refill hRefill).1⟩
        exact Or.inl (refilled_nears hLight hStalls hRefill hLoop)
    | busied hEmpty hBox hFree hHeld =>
        have hStill : ¬ next.InHand ticket := by simp [InHand, hHeld]
        exact Or.inr (alike_waiting hInHand hStill (by rw [ahead, hBox, ahead]) (by rw [hBox])
          (Or.inl hEmpty))
    | works hWorks =>
        cases hStalls : d.stalls ticket with
        | false => exact Or.inl (works_nears hDistinct hStillLight hStalls hWorks)
        | true =>
            have hRoom := (stalls_iff.mp hStalls).2
            cases hWorks with
            | onward hBox hHeld hLoad =>
                have hStill : ¬ next.InHand ticket :=
                  fun hNow => hInHand (List.map_subset _ hHeld hNow)
                exact Or.inr (alike_waiting hInHand hStill (by rw [ahead, hBox, ahead])
                  (by rw [hBox]) (Or.inl hRoom))
            | took hFree hTake hHeld =>
                rw [Mailbox.take?, hRoom] at hTake
                cases hTake
            | closed hBox hHeld => exact Or.inl (closed_nears hBox hHeld)

theorem refill_stalls (hHas : d.Has ticket) (hStalls : d.stalls ticket = true) :
    exists box, d.box.refill? = some box := by
  have ⟨hInHand, hRoom⟩ := stalls_iff.mp hStalls
  have hWaits := (has_iff.mp hHas).resolve_left hInHand
  cases hLine : d.box.line with
  | nil => simp [Mailbox.pending, hRoom, hLine] at hWaits
  | cons letter rest => exact ⟨_, by simp only [Mailbox.refill?, hRoom, hLine]; rfl⟩

end Desk

end Monitor
end TubMonitor
