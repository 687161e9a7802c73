import TubMonitor.Proofs.Isolation.Marks

/-!
# What decides about a loop

What a loop does at an instant is decided by its part of the state, by what arrives for
it and by what its calls meet with.  This is one condition for each kind of scene that
concerns the loop; the parts of the three loops are shown to meet it one by one.
-/

namespace TubMonitor
namespace Monitor

/-!
## Arrivals
-/

theorem stepsTaken_le (source : Notice.Source) (steps : Nat) (past : List Scene) :
    steps ≤ stepsTaken source steps past := by
  induction past generalizing steps with
  | nil => exact Nat.le_refl _
  | cons scene rest ih =>
      refine Nat.le_trans ?_ (ih _)
      split <;> omega

theorem arrivals_later {s : Monitor} {hs : List Happening} {source : Notice.Source}
    {steps : Nat} {entry : Moment × Arrival}
    (h : entry ∈ arrivals source steps (s.scenes hs)) :
    s.now ≤ entry.1.now ∧ forall taken, entry.1.steps = some taken -> steps ≤ taken := by
  induction hs generalizing s steps with
  | nil => cases h
  | cons first rest ih =>
      rw [scenes_cons, arrivals, List.mem_append] at h
      rcases h with hNow | hRest
      · rw [Option.mem_toList, Option.map_eq_some_iff] at hNow
        rcases hNow with ⟨_, _, rfl⟩
        refine ⟨Nat.le_refl _, ?_⟩
        intro taken hTaken
        rcases Option.map_eq_some_iff.mp hTaken with ⟨_, _, hSame⟩
        exact Nat.le_of_eq hSame
      · have hLater := ih hRest
        refine ⟨Nat.le_trans (now_happen s first) hLater.1, ?_⟩
        intro taken hTaken
        have hSteps := hLater.2 taken hTaken
        split at hSteps <;> omega

/-!
## One session
-/

section Session

variable {s : Monitor} {h : Happening} {rest : List Happening} {source : Notice.Source}
  {fates : Nat -> Fate} {made : Nat}

theorem session_orderly (hSession : Session s (h :: rest) source fates made) :
    (Scene.mk s h).Orderly source :=
  hSession.orderly _ (by simp)

theorem session_meets (hSession : Session s (h :: rest) source fates made) :
    (Scene.mk s h).Meets source fates made :=
  hSession.meets.1

theorem session_rest (hSession : Session s (h :: rest) source fates made) :
    Session (s.happen h) rest source fates
      (made + (callsOf ((Scene.mk s h).effects source)).length) where
  orderly := fun scene hScene => hSession.orderly scene (by simp [hScene])
  meets := hSession.meets.2

end Session

/-!
## Scene by scene
-/

section Unwinding

variable {π : Type}

/-- Two states of which the loop has the same part. -/
structure Alike (source : Notice.Source) (part : Monitor -> π) (s t : Monitor) : Prop where
  first : Sound s
  second : Sound t
  config : s.config.only source = t.config.only source
  part : part s = part t

/-- Two scenes in which the loop does the same. -/
structure StepAlike (source : Notice.Source) (part : Monitor -> π) (first second : Scene) :
    Prop where
  part : part first.after = part second.after
  effects : (first.effects source).map Effect.anonymous =
    (second.effects source).map Effect.anonymous

/-- Its part of the state is all that a loop depends on. -/
structure Unwinding (source : Notice.Source) (part : Monitor -> π) : Prop where
  same : forall {s next : Monitor}, Same source s next -> part next = part s
  now : forall {s t : Monitor}, part s = part t -> s.now = t.now
  able : forall {s t : Monitor} {turn : Turn}, Alike source part s t ->
    turn = source.turn ∨ source.lineTurn? = some turn ->
    (s.turn? turn).isSome = (t.turn? turn).isSome
  lost : forall {first second : Scene}, part first.before = part second.before ->
    part first.after = part second.after -> first.lost source = second.lost source
  turn : forall {s t : Monitor} {fates : Nat -> Fate} {made : Nat}, Alike source part s t ->
    (s.turn? source.turn).isSome = true -> (t.turn? source.turn).isSome = true ->
    (Scene.mk s (.turn source.turn)).Meets source fates made ->
    (Scene.mk t (.turn source.turn)).Meets source fates made ->
    StepAlike source part ⟨s, .turn source.turn⟩ ⟨t, .turn source.turn⟩
  line : forall {s t : Monitor} {line : Turn}, Alike source part s t ->
    source.lineTurn? = some line ->
    part (s.happen (.turn line)) = part (t.happen (.turn line))
  start : forall {s t : Monitor} {fates : Nat -> Fate} {made : Nat}, Alike source part s t ->
    s.isFresh = true -> t.isFresh = true ->
    (Scene.mk s .start).Meets source fates made ->
    (Scene.mk t .start).Meets source fates made ->
    StepAlike source part ⟨s, .start⟩ ⟨t, .start⟩
  send : forall {s t : Monitor} {order : Console.Order}, Alike source part s t ->
    order.source = source ->
    part (s.send order).2 = part (t.send order).2 ∧
      forall h k, (Scene.mk s h).refusal? order = (Scene.mk t k).refusal? order
  wait : forall {s t : Monitor} (now : Nat), part s = part t ->
    part { s with now := now } = part { t with now := now }

variable {source : Notice.Source} {part : Monitor -> π}

theorem alike_symm {s t : Monitor} (h : Alike source part s t) : Alike source part t s :=
  ⟨h.second, h.first, h.config.symm, h.part.symm⟩

theorem alike_next {s t : Monitor} (hUnwinding : Unwinding source part)
    (hAlike : Alike source part s t) : s.nextTurn? source = t.nextTurn? source := by
  have hLine : (source.lineTurn?.filter fun line => (s.turn? line).isSome) =
      source.lineTurn?.filter fun line => (t.turn? line).isSome := by
    cases hTurn : source.lineTurn? with
    | none => rfl
    | some line =>
        rw [Option.filter_some, Option.filter_some, hUnwinding.able hAlike (Or.inr hTurn)]
  rw [nextTurn?, nextTurn?, hUnwinding.able hAlike (Or.inl rfl), hLine]

theorem alike_happen {s t : Monitor} {h k : Happening} (hAlike : Alike source part s t)
    (hGoing : h ≠ .cancel) (hStill : k ≠ .cancel)
    (hPart : part (s.happen h) = part (t.happen k)) :
    Alike source part (s.happen h) (t.happen k) where
  first := sound_happen hAlike.first hGoing
  second := sound_happen hAlike.second hStill
  config := by
    rw [config_happen, config_happen]
    exact hAlike.config
  part := hPart

end Unwinding

end Monitor
end TubMonitor
