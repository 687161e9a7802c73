import TubMonitor.Proofs.Happenings

/-!
# Fair courses

An endless course of events is fair if every part of the monitor gets its turn again and
again and time goes on beyond every bound.  Whatever has a rank that nothing raises and
that the turn of some part lowers is therefore brought to its end.
-/

namespace TubMonitor
namespace Monitor

/-- The state after the first happenings of an endless course. -/
def along (s : Monitor) (course : Nat -> Happening) (n : Nat) : Monitor :=
  s.after ((List.range n).map course)

@[simp] theorem along_zero (s : Monitor) (course : Nat -> Happening) : s.along course 0 = s := rfl

theorem along_succ (s : Monitor) (course : Nat -> Happening) (n : Nat) :
    s.along course (n + 1) = (s.along course n).happen (course n) := by
  simp [along, List.range_succ]

structure Fair (course : Nat -> Happening) : Prop where
  turns : forall turn n, exists m, n ≤ m ∧ course m = .turn turn
  time : forall moment n, exists m later, n ≤ m ∧ course m = .wait later ∧ moment ≤ later

section Course

variable {s : Monitor} {course : Nat -> Happening}

theorem now_along {n m : Nat} (h : n ≤ m) : (s.along course n).now ≤ (s.along course m).now := by
  induction h with
  | refl => exact Nat.le_refl _
  | step _ ih =>
      rw [along_succ]
      exact Nat.le_trans ih (now_happen _ _)

theorem stale_along (hStale : s.isFresh = false) (course : Nat -> Happening) (n : Nat) :
    (s.along course n).isFresh = false := by
  induction n with
  | zero => exact hStale
  | succ n ih =>
      rw [along_succ]
      exact stale_happen ih (course n)

theorem turn_after (hFair : Fair course) (turn : Turn) (moment n : Nat) :
    exists m, n ≤ m ∧ course m = .turn turn ∧ moment ≤ (s.along course m).now := by
  rcases hFair.time moment n with ⟨waited, later, hWaited, hWait, hLater⟩
  rcases hFair.turns turn (waited + 1) with ⟨m, hTurn, hCourse⟩
  have hNow : moment ≤ (s.along course (waited + 1)).now := by
    rw [along_succ, hWait]
    exact Nat.le_trans hLater (Nat.le_max_right _ _)
  exact ⟨m, by omega, hCourse, Nat.le_trans hNow (now_along hTurn)⟩

/-!
## Ranks
-/

/-- The turn that is needed, and the moment from which on it does what is needed. -/
structure Helper where
  turn : Turn
  due : Nat

/-- No happening raises the rank, and the turn that is needed lowers it. -/
structure Falls (s : Monitor) (course : Nat -> Happening) (holds reached : Nat -> Prop)
    (rank : Nat -> Nat) (helper : Nat -> Helper) : Prop where
  step : forall n, holds n -> reached (n + 1) ∨ (holds (n + 1) ∧
    (rank (n + 1) < rank n ∨ (rank (n + 1) = rank n ∧ helper (n + 1) = helper n)))
  turn : forall n, holds n -> (helper n).due ≤ (s.along course n).now ->
    course n = .turn (helper n).turn -> reached (n + 1) ∨ rank (n + 1) < rank n

variable {holds reached : Nat -> Prop} {rank : Nat -> Nat} {helper : Nat -> Helper}

theorem falls_waits (hFalls : Falls s course holds reached rank helper) {n : Nat} (h : holds n)
    (steps : Nat) :
    (exists m, n < m ∧ (reached m ∨ (holds m ∧ rank m < rank n))) ∨
      (holds (n + steps) ∧ rank (n + steps) = rank n ∧ helper (n + steps) = helper n) := by
  induction steps with
  | zero => exact Or.inr ⟨h, rfl, rfl⟩
  | succ steps ih =>
      rcases ih with hGained | ⟨hHolds, hRank, hHelper⟩
      · exact Or.inl hGained
      · rcases hFalls.step (n + steps) hHolds with hReached | ⟨hNext, hLower | ⟨hSame, hAlike⟩⟩
        · exact Or.inl ⟨_, by omega, Or.inl hReached⟩
        · exact Or.inl ⟨_, by omega, Or.inr ⟨hNext, hRank ▸ hLower⟩⟩
        · exact Or.inr ⟨hNext, hSame.trans hRank, hAlike.trans hHelper⟩

theorem falls_gains (hFair : Fair course) (hFalls : Falls s course holds reached rank helper)
    {n : Nat} (h : holds n) :
    exists m, n < m ∧ (reached m ∨ (holds m ∧ rank m < rank n)) := by
  rcases turn_after (s := s) hFair (helper n).turn (helper n).due n with ⟨m, hLater, hTurn, hDue⟩
  rcases Nat.exists_eq_add_of_le hLater with ⟨steps, rfl⟩
  rcases falls_waits hFalls h steps with hGained | ⟨hHolds, hRank, hHelper⟩
  · exact hGained
  · rw [← hHelper] at hTurn hDue
    rcases hFalls.turn _ hHolds hDue hTurn with hReached | hLower
    · exact ⟨_, by omega, Or.inl hReached⟩
    · rcases hFalls.step _ hHolds with hReached | ⟨hNext, _⟩
      · exact ⟨_, by omega, Or.inl hReached⟩
      · exact ⟨_, by omega, Or.inr ⟨hNext, hRank ▸ hLower⟩⟩

theorem falls_reaches (hFair : Fair course) (hFalls : Falls s course holds reached rank helper)
    {n : Nat} (h : holds n) : exists m, n < m ∧ reached m := by
  induction hRank : rank n using Nat.strongRecOn generalizing n with
  | ind bound ih =>
      rcases falls_gains hFair hFalls h with ⟨m, hLater, hReached | ⟨hHolds, hLower⟩⟩
      · exact ⟨m, hLater, hReached⟩
      · rcases ih (rank m) (hRank ▸ hLower) hHolds rfl with ⟨last, hLast, hReached⟩
        exact ⟨last, by omega, hReached⟩

/-!
## One turn
-/

theorem holds_until (hStep : forall n, holds n -> reached (n + 1) ∨ holds (n + 1)) {n m : Nat}
    (hLater : n ≤ m) (h : holds n) : holds m ∨ exists k, n < k ∧ reached k := by
  induction hLater with
  | refl => exact Or.inl h
  | @step m hEarlier ih =>
      rcases ih with hHolds | hReached
      · rcases hStep m hHolds with hNext | hStill
        · exact Or.inr ⟨m + 1, Nat.lt_succ_of_le hEarlier, hNext⟩
        · exact Or.inl hStill
      · exact Or.inr hReached

/-- What the turn of one part brings about as soon as it is able to, and nothing else does away
with, comes about. -/
theorem turn_reaches (hFair : Fair course) {turn : Turn} {able : Nat -> Prop}
    (hStep : forall n, holds n -> reached (n + 1) ∨ holds (n + 1))
    (hTurn : forall n, holds n -> able n -> course n = .turn turn -> reached (n + 1))
    {n : Nat} (h : holds n) (hAble : exists m, n ≤ m ∧ forall k, m ≤ k -> able k) :
    exists m, n < m ∧ reached m := by
  rcases hAble with ⟨m, hLater, hFrom⟩
  rcases hFair.turns turn m with ⟨last, hLast, hCourse⟩
  rcases holds_until hStep (Nat.le_trans hLater hLast) h with hHolds | hReached
  · exact ⟨last + 1, by omega, hTurn last hHolds (hFrom last hLast) hCourse⟩
  · exact hReached

/-- Every moment comes. -/
theorem due_along (s : Monitor) (hFair : Fair course) (moment n : Nat) :
    exists m, n ≤ m ∧ forall k, m ≤ k -> moment ≤ (s.along course k).now := by
  rcases turn_after (s := s) hFair .console moment n with ⟨m, hLater, _, hNow⟩
  exact ⟨m, hLater, fun k hMore => Nat.le_trans hNow (now_along hMore)⟩

end Course

end Monitor
end TubMonitor
