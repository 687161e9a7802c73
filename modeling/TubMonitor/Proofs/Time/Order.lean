import Mathlib.Order.Basic
import TubMonitor.Proofs.Time.Stamps

/-!
# The order of instants

Instants are ordered by their seconds and then by their nanoseconds, a leap second
between the second before it and the one after.  Moments keep their order as instants.
-/

namespace TubMonitor
namespace Time

instance : LE Instant :=
  ⟨fun s t => s.second < t.second ∨ (s.second = t.second ∧ s.nano ≤ t.nano)⟩

theorem Instant.le_iff {s t : Instant} :
    s ≤ t ↔ s.second < t.second ∨ (s.second = t.second ∧ s.nano ≤ t.nano) := Iff.rfl

instance (s t : Instant) : Decidable (s ≤ t) :=
  decidable_of_iff _ Instant.le_iff.symm

instance : Preorder Instant where
  le_refl := by
    intro s
    exact Or.inr ⟨rfl, Nat.le_refl _⟩
  le_trans := by
    intro s t u hFirst hSecond
    rw [Instant.le_iff] at *
    omega

theorem instantOf_le {earlier later : Nat} (h : earlier ≤ later) :
    instantOf earlier ≤ instantOf later := by
  rw [Instant.le_iff]
  simp only [instantOf, Instant.ofMillis]
  omega

theorem inCalendar_of_le {earlier later : Nat} (h : earlier ≤ later)
    (hLater : (instantOf later).inCalendar = true) : (instantOf earlier).inCalendar = true := by
  simp only [Instant.inCalendar, Bool.and_eq_true, decide_eq_true_eq] at *
  unfold instantOf Instant.ofMillis Instant.firstSecond Instant.lastSecond at *
  dsimp only at *
  omega

/-!
## Moments

A moment never lies in a leap second, so that instants of moments are as far apart as the
moments are.
-/

theorem nano_instantOf (moment : Nat) : (instantOf moment).nano < Instant.nanosPerSecond := by
  simp only [instantOf, Instant.ofMillis, Instant.nanosPerSecond]
  omega

theorem addMinutes_instantOf (moment minutes : Nat) :
    (instantOf moment).addMinutes minutes = instantOf (moment + minutes * millisPerMinute) := by
  have hProper := Nat.not_le_of_lt (nano_instantOf moment)
  simp only [Instant.addMinutes, hProper, and_false, if_false]
  simp only [instantOf, Instant.ofMillis, millisPerMinute, Instant.mk.injEq]
  omega

theorem leapAdjustment_instantOf (later earlier : Nat) :
    Instant.leapAdjustment (instantOf later) (instantOf earlier) = 0 := by
  have hLater := Nat.not_le_of_lt (nano_instantOf later)
  have hEarlier := Nat.not_le_of_lt (nano_instantOf earlier)
  simp [Instant.leapAdjustment, hLater, hEarlier]

theorem since_instantOf (later earlier : Nat) :
    (instantOf later).since (instantOf earlier) = ((later : Int) - earlier) * 1000000 := by
  rw [Instant.since, leapAdjustment_instantOf]
  simp only [instantOf, Instant.ofMillis, Instant.nanosPerSecond]
  omega

end Time
end TubMonitor
