import TubMonitor.Monitor.Gateway

/-!
# Mailboxes

A mailbox has room for one command.  Who finds it full stands in line; when the room
is free again the first in line fills it, unless it is closed before.
-/

namespace TubMonitor
namespace Monitor

structure Letter (α : Type) where
  command : α
  ticket : Nat
deriving DecidableEq, Repr

structure Mailbox (α : Type) where
  slot : Option (Letter α)
  line : List (Letter α)
  isOpen : Bool
deriving DecidableEq, Repr

namespace Mailbox

variable {α : Type}

def empty : Mailbox α :=
  ⟨none, [], true⟩

def pending (m : Mailbox α) : List (Letter α) :=
  m.slot.toList ++ m.line

def send? (m : Mailbox α) (letter : Letter α) : Option (Mailbox α) :=
  if m.isOpen then
    if m.slot.isNone && m.line.isEmpty then
      some { m with slot := some letter }
    else
      some { m with line := m.line ++ [letter] }
  else
    none

def take? (m : Mailbox α) : Option (Letter α × Mailbox α) :=
  m.slot.map fun letter => (letter, { m with slot := none })

def refill? (m : Mailbox α) : Option (Mailbox α) :=
  match m.slot, m.line with
  | none, letter :: rest => some { m with slot := some letter, line := rest }
  | _, _ => none

def closed : Mailbox α :=
  ⟨none, [], false⟩

/-!
## The order of letters
-/

theorem pending_send {m next : Mailbox α} {letter : Letter α}
    (h : m.send? letter = some next) : next.pending = m.pending ++ [letter] := by
  unfold send? at h
  split at h
  · split at h
    · next hFree =>
        cases h
        simp only [Bool.and_eq_true, Option.isNone_iff_eq_none, List.isEmpty_iff] at hFree
        simp [pending, hFree.1, hFree.2]
    · cases h
      simp [pending]
  · cases h

theorem pending_take {m next : Mailbox α} {letter : Letter α}
    (h : m.take? = some (letter, next)) : m.pending = letter :: next.pending := by
  unfold take? at h
  cases hSlot : m.slot with
  | none => simp [hSlot] at h
  | some first =>
      simp only [hSlot, Option.map_some, Option.some.injEq, Prod.mk.injEq] at h
      obtain ⟨rfl, rfl⟩ := h
      simp [pending, hSlot]

theorem pending_refill {m next : Mailbox α} (h : m.refill? = some next) :
    next.pending = m.pending := by
  unfold refill? at h
  split at h
  · next hSlot hLine =>
      cases h
      simp [pending, hSlot, hLine]
  · cases h

/-!
## Open and closed
-/

theorem isOpen_send {m next : Mailbox α} {letter : Letter α} (h : m.send? letter = some next) :
    m.isOpen = true ∧ next.isOpen = true := by
  unfold send? at h
  split at h
  · next hOpen =>
      split at h
      · cases h
        exact ⟨hOpen, hOpen⟩
      · cases h
        exact ⟨hOpen, hOpen⟩
  · cases h

theorem isOpen_take {m next : Mailbox α} {letter : Letter α}
    (h : m.take? = some (letter, next)) : next.isOpen = m.isOpen := by
  rcases Option.map_eq_some_iff.mp h with ⟨first, _, hNext⟩
  cases hNext
  rfl

theorem isOpen_refill {m next : Mailbox α} (h : m.refill? = some next) :
    next.isOpen = m.isOpen := by
  unfold refill? at h
  split at h
  · cases h
    rfl
  · cases h

end Mailbox
end Monitor
end TubMonitor
