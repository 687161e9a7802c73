import TubMonitor.Proofs.Isolation.Unwinding

/-!
# The parts of the loops

The part of the state that is a loop's own, without tickets.  What a call of the loop is
answered depends on this part and on the fate of the call, and so does the call that is
made next.
-/

namespace TubMonitor
namespace Monitor

structure Part (σ κ : Type) where
  now : Nat
  state : σ
  pending : Option Pending
  box : Mailbox κ
  rows : Store

def ozonePart (s : Monitor) : Part Ozone.Controller Ozone.Command :=
  { now := s.now
    state := s.ozone.state.anonymous
    pending := s.ozone.pending
    box := s.ozoneBox.anonymous
    rows := s.outside.store.only .ozone }

/-- The leak loop takes no commands. -/
def leakPart (s : Monitor) : Part Leak.Watch Empty :=
  { now := s.now
    state := s.leak.state
    pending := s.leak.pending
    box := .empty
    rows := s.outside.store.only .leak }

def temperaturePart (s : Monitor) : Part Temperature.Sampler Temperature.Command :=
  { now := s.now
    state := s.temperature.state
    pending := s.temperature.pending
    box := s.targetBox.anonymous
    rows := s.outside.store.only .temperature }

theorem happen_turn {s next : Monitor} {turn : Turn} (h : s.turn? turn = some next) :
    s.happen (.turn turn) = next := by
  rw [happen, h, Option.getD_some]

/-!
## Calls
-/

section Calls

variable {s t : Monitor} {source : Notice.Source} {fates : Nat -> Fate} {made : Nat}

theorem answer_fate {pending : Pending} {fate : Fate} (hOrder : InOrder s)
    (hPending : s.underWay? source = some pending) (hNow : s.now = t.now)
    (hRows : s.outside.store.only source = t.outside.store.only source)
    (hFirst : pending.call.Meets fate s) (hSecond : pending.call.Meets fate t) :
    (s.outside.answer s.now pending.call).1 = (t.outside.answer t.now pending.call).1 ∧
      (s.outside.answer s.now pending.call).2.store.only source =
        (t.outside.answer t.now pending.call).2.store.only source := by
  cases hCall : pending.call with
  | sensors request =>
      rw [hCall] at hFirst hSecond
      have hAside (o : Outside) (now : Nat) :
          (o.answer now (.sensors request)).2.store.only source = o.store.only source :=
        answer_rows o now (fun _ hStore => by cases hStore)
      exact ⟨hFirst.trans hSecond.symm, by rw [hAside, hAside, hRows]⟩
  | store request =>
      have hOwn := underWay_source hOrder hPending hCall
      rw [hCall] at hFirst hSecond
      simp only [Call.Meets] at hFirst hSecond
      cases hFailure : fate.failure with
      | some fault =>
          rw [hFailure] at hFirst hSecond
          simp [Outside.answer, hFirst, hSecond, hRows]
      | none =>
          rw [hFailure] at hFirst hSecond
          have hAlike := Store.answer_alike (Time.instantOf t.now) hOwn hRows
          simp [Outside.answer, hFirst, hSecond, hNow, hAlike.1, hAlike.2]

theorem placed_fate {first second : Scene} {effects effectsToo : List Effect}
    {served servedToo : Monitor} (hNow : first.before.now = second.before.now)
    (hFirst : first.effects source = effects) (hSecond : second.effects source = effectsToo)
    (hEffects : effects.map Effect.anonymous = effectsToo.map Effect.anonymous)
    (hMeets : first.Meets source fates made) (hMeetsToo : second.Meets source fates made)
    (hServed : served.placed = first.before.placed)
    (hServedToo : servedToo.placed = second.before.placed) :
    served.placedLast effects = servedToo.placedLast effectsToo := by
  have hCalls := congrArg callsOf hEffects
  rw [callsOf_anonymous, callsOf_anonymous] at hCalls
  subst hFirst hSecond
  unfold placedLast
  rw [hServed, hServedToo]
  cases hLast : (callsOf (second.effects source)).getLast? with
  | none => rw [hCalls, hLast, Option.map_none, Option.map_none]
  | some call =>
      have hMem := List.mem_of_getLast? hLast
      have hDelay := hMeets.placed call (hCalls ▸ hMem)
      rw [hCalls, hLast, Option.map_some, Option.map_some, placed, placed, hNow, hDelay,
        hMeetsToo.placed call hMem]

end Calls

/-!
## Losses
-/

theorem losses_alike {α : Type} {box : Monitor -> Mailbox α} {first second : Scene}
    (hNow : first.before.now = second.before.now)
    (hBefore : (box first.before).anonymous = (box second.before).anonymous)
    (hAfter : (box first.after).anonymous = (box second.after).anonymous) :
    first.losses box = second.losses box := by
  have hWaiting := congrArg (fun m => m.pending.length) hBefore
  simp only [Mailbox.anonymous_pending, List.length_map] at hWaiting
  have hOpen := congrArg Mailbox.isOpen hBefore
  have hDoor := congrArg Mailbox.isOpen hAfter
  change (box first.before).isOpen = (box second.before).isOpen at hOpen
  change (box first.after).isOpen = (box second.after).isOpen at hDoor
  unfold Scene.losses
  rw [hOpen, hDoor, List.map_const', List.map_const', hWaiting, hNow]

end Monitor
end TubMonitor
