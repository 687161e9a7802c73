import TubMonitor.Proofs.Ozone.Scenes
import TubMonitor.Proofs.Sensors.Generator

/-!
# Power over the generator

As long as the calls of the loop for the generator come through and nothing else
switches it, the loop knows in which phases the generator is on and in which it is off.
-/

namespace TubMonitor
namespace Monitor

/-!
## The generator
-/

/-- Whether the generator is on, as far as that can be seen from outside. -/
def generator? (s : Monitor) : Option Bool :=
  s.outside.bank.isPowered? .ozone

/-- No call of the loop for the generator fails, and nothing else switches it. -/
structure Obeyed (scene : Scene) : Prop where
  switched : forall outcome, scene.ozoneEvent? = some (.reply (.sensors (.switched outcome))) ->
    outcome = .ok ()
  apart : scene.ozoneEvent? = none -> scene.after.generator? = scene.before.generator?

def obeys (scene : Scene) : Bool :=
  match scene.ozoneEvent? with
  | some (.reply (.sensors (.switched (.error _)))) => false
  | some _ => true
  | none => scene.after.generator? == scene.before.generator?

theorem obeyed_of_obeys {scene : Scene} (h : obeys scene = true) : Obeyed scene := by
  constructor
  · intro outcome hEvent
    cases outcome with
    | ok => rfl
    | error fault => simp [obeys, hEvent] at h
  · intro hApart
    simpa [obeys, hApart] using h

/-- Phase by phase, where the loop knows it. -/
def Powered (s : Monitor) : Prop :=
  match s.ozone.state.phase with
  | .waiting active => s.generator? = some active.isSome
  | .closing _ _ _ _ | .labelling _ _ _ | .recording _ | .ended => s.generator? = some false
  | .flagging _ _ _ => False
  | .dormant | .loading | .securing | .switchingOff _ _ | .switchingOn _ _ => True

section Power

variable {s served next : Monitor} {event : Ozone.Event}
  {result : Ozone.Controller × List Effect}

theorem generator_hand (hMoves : OzoneMoves s event result served next) :
    next.generator? = served.generator? := by
  rw [hMoves.hand, generator?, handOzone_outside, generator?]

theorem generator_decided (hMoves : OzoneMoves s event result served next)
    (hDecided : forall reply, event ≠ .reply reply) : next.generator? = s.generator? := by
  rw [generator_hand hMoves]
  cases hMoves.serves with
  | reply hPending hDue => exact absurd rfl (hDecided _)
  | cancel hFree hWaiting hCancelled => rfl
  | deadline hFree hRun hCancelled hDue => rfl
  | command hFree hWaiting hCancelled hEarly hTake => rfl

theorem generator_stored {reply : Reply} (hOrder : InOrder s)
    (hMoves : OzoneMoves s (.reply reply) result served next)
    (hStored : forall call, s.ozone.state.call? = some call ->
      exists request, call = .store request) :
    next.generator? = s.generator? := by
  rcases ozoneServes_reply hMoves.serves with ⟨pending, hPending, _, _, hServed⟩
  have hCall : s.ozone.state.call? = some pending.call := by
    simpa [hPending] using hOrder.ozone.call.symm
  rcases hStored pending.call hCall with ⟨request, hRequest⟩
  rw [generator_hand hMoves, hServed, generator?, generator?, hRequest]
  dsimp only
  rw [answer_store_bank]

theorem generator_switched {on : Bool} (hOrder : InOrder s)
    (hMoves : OzoneMoves s (.reply (.sensors (.switched (.ok ())))) result served next)
    (hCall : s.ozone.state.call? = some (.sensors (.switch .ozone on))) :
    next.generator? = some on := by
  rcases ozoneServes_reply hMoves.serves with ⟨pending, hPending, _, hReply, hServed⟩
  have hSame : pending.call = .sensors (.switch .ozone on) := by
    simpa [hPending, hCall] using hOrder.ozone.call
  rw [hSame] at hReply
  rw [generator_hand hMoves, hServed, generator?, hSame]
  exact Sensors.isPowered?_answer_switch hReply.symm

theorem powered_retired {run : Ozone.Run} {ending : Ozone.Ending} {stop : Time.Instant}
    (hMoves : OzoneMoves s event result served next)
    (hResult : result.1 = (s.ozone.state.retired s.now run ending stop).1)
    (hOff : next.generator? = some false) : Powered next := by
  unfold Powered
  rw [hMoves.ozone]
  dsimp only
  rw [hResult]
  cases ending <;> exact hOff

theorem powered_move (hOrder : InOrder s) (hPowered : Powered s)
    (hMoves : OzoneMoves s event result served next) (hObeyed : Obeyed ⟨s, .turn .ozone⟩) :
    Powered next := by
  unfold Powered at hPowered
  have hMove := hMoves.move
  cases hMove with
  | loaded outcome hPhase =>
      unfold Powered
      rw [hMoves.ozone]
      trivial
  | secured outcome hPhase =>
      have hOk := hObeyed.switched outcome hMoves.scene
      subst hOk
      unfold Powered
      rw [hMoves.ozone]
      exact generator_switched hOrder hMoves (by simp [Ozone.Controller.call?, hPhase])
  | finished hPhase =>
      rw [hPhase] at hPowered
      unfold Powered
      rw [hMoves.ozone]
      exact (generator_decided hMoves (fun _ => Ozone.Event.noConfusion)).trans hPowered
  | shutDown hPhase | expired hPhase hDue | stopped ticket hPhase
  | replaced minutes ticket hPhase | recorded outcome hPhase =>
      unfold Powered
      rw [hMoves.ozone]
      trivial
  | spared ticket hPhase =>
      rw [hPhase] at hPowered
      unfold Powered
      rw [hMoves.ozone]
      dsimp only
      rw [hPhase]
      exact (generator_decided hMoves (fun _ => Ozone.Event.noConfusion)).trans hPowered
  | opened minutes ticket hPhase =>
      rw [hPhase] at hPowered
      unfold Powered
      rw [hMoves.ozone]
      exact (generator_decided hMoves (fun _ => Ozone.Event.noConfusion)).trans hPowered
  | switchedOff outcome hPhase hRow =>
      have hOk := hObeyed.switched outcome hMoves.scene
      subst hOk
      unfold Powered
      rw [hMoves.ozone]
      exact generator_switched hOrder hMoves (by simp [Ozone.Controller.call?, hPhase])
  | unfiled outcome hPhase hRow =>
      have hOk := hObeyed.switched outcome hMoves.scene
      subst hOk
      apply powered_retired hMoves rfl
      exact generator_switched hOrder hMoves (by simp [Ozone.Controller.call?, hPhase])
  | closed outcome hPhase =>
      rw [hPhase] at hPowered
      have hSame := generator_stored hOrder hMoves (by simp [Ozone.Controller.call?, hPhase])
      unfold Powered
      rw [hMoves.ozone]
      exact hSame.trans hPowered
  | labelled outcome hPhase =>
      rw [hPhase] at hPowered
      have hSame := generator_stored hOrder hMoves (by simp [Ozone.Controller.call?, hPhase])
      exact powered_retired hMoves rfl (hSame.trans hPowered)
  | switchedOn hPhase =>
      unfold Powered
      rw [hMoves.ozone]
      exact generator_switched hOrder hMoves (by simp [Ozone.Controller.call?, hPhase])
  | failedOn fault hPhase =>
      have hOk := hObeyed.switched _ hMoves.scene
      cases hOk
  | failedUnfiled fault hPhase =>
      have hOk := hObeyed.switched _ hMoves.scene
      cases hOk
  | flagged outcome hPhase =>
      rw [hPhase] at hPowered
      cases hPowered

end Power

theorem powered_happen {s : Monitor} (hOrder : InOrder s) (hPowered : Powered s)
    (h : Happening) (hObeyed : Obeyed ⟨s, h⟩) : Powered (s.happen h) := by
  have hHappens := ozone_happens hOrder h
  generalize hNext : s.happen h = next at hHappens
  have hAfter : (Scene.mk s h).after = next := hNext
  cases hHappens with
  | apart hApart =>
      have hSame : next.generator? = s.generator? := by
        rw [← hAfter]
        exact hObeyed.apart hApart.event
      unfold Powered at hPowered ⊢
      rw [hApart.ozone, hSame]
      exact hPowered
  | start hFresh =>
      have hOzone : s.start.2.ozone.state = Ozone.Controller.start.1 := by
        rw [start_fresh hFresh]
        dsimp only
        split <;> rfl
      unfold Powered
      rw [hOzone]
      trivial
  | move hMoves => exact powered_move hOrder hPowered hMoves hObeyed
  | join hCancelled hOver => exact hPowered

theorem powered_after (config : Config) (now : Nat) (outside : Outside)
    (sink : Option Notice.Sink) (hs : List Happening)
    (hObeyed : forall scene, scene ∈ (assemble config now outside sink).scenes hs ->
      Obeyed scene) :
    Powered ((assemble config now outside sink).after hs) := by
  induction hs using List.reverseRecOn with
  | nil => exact trivial
  | append_singleton hs h ih =>
      rw [scenes_concat] at hObeyed
      rw [after_concat]
      refine powered_happen (inOrder_after (inOrder_assemble config now outside sink) hs) ?_ h ?_
      · exact ih (fun scene hScene => hObeyed scene (List.mem_append_left _ hScene))
      · exact hObeyed _ (List.mem_append_right _ (List.mem_singleton.mpr rfl))

end Monitor
end TubMonitor
