import TubMonitor.Proofs.Effects
import TubMonitor.Proofs.Happenings

/-!
# What the loops do

In a scene a loop does what its step answers to the event that it is handed, or what
it begins with.  What it does is done at the instant of the scene.
-/

namespace TubMonitor
namespace Monitor

def Scene.effects (scene : Scene) : Notice.Source -> List Effect
  | .ozone =>
      match scene.happening with
      | .start => if scene.before.isFresh then Ozone.Controller.start.2 else []
      | _ =>
          (scene.ozoneEvent?.map fun event =>
            (scene.before.ozone.state.step scene.before.now event).2).getD []
  | .leak =>
      match scene.happening with
      | .start =>
          if scene.before.isFresh then
            (Leak.Watch.start scene.before.config.leakPeriod).2
          else
            []
      | _ =>
          (scene.leakEvent?.map fun event =>
            (scene.before.leak.state.step scene.before.now event).2).getD []
  | .temperature =>
      (scene.temperatureEvent?.map fun event =>
        (scene.before.temperature.state.step scene.before.now event).2).getD []

/-!
## Commands that are done with
-/

/-- When commands were carried out: the instant of the scene, once for each of them. -/
def Scene.acks (scene : Scene) (source : Notice.Source) : List Nat :=
  (ticketsOf (scene.effects source)).map fun _ => scene.before.now

def acks (source : Notice.Source) (past : List Scene) : List Nat :=
  past.flatMap fun scene => scene.acks source

/-- When commands were lost: they wait in a mailbox that the scene closes. -/
def Scene.losses {α : Type} (scene : Scene) (box : Monitor -> Mailbox α) : List Nat :=
  if (box scene.before).isOpen && !(box scene.after).isOpen then
    (box scene.before).pending.map fun _ => scene.before.now
  else
    []

def losses {α : Type} (box : Monitor -> Mailbox α) (past : List Scene) : List Nat :=
  past.flatMap fun scene => scene.losses box

theorem acks_concat (source : Notice.Source) (past : List Scene) (scene : Scene) :
    acks source (past ++ [scene]) = acks source past ++ scene.acks source := by
  simp [acks]

theorem losses_concat {α : Type} (box : Monitor -> Mailbox α) (past : List Scene)
    (scene : Scene) : losses box (past ++ [scene]) = losses box past ++ scene.losses box := by
  simp [losses]

theorem acks_ozone_none {scene : Scene} (h : scene.ozoneEvent? = none) :
    scene.acks .ozone = [] := by
  unfold Scene.acks Scene.effects
  cases hHappening : scene.happening with
  | start =>
      dsimp only
      split <;> rfl
  | _ => simp [h]

theorem acks_target_none {scene : Scene} (h : scene.temperatureEvent? = none) :
    scene.acks .temperature = [] := by
  simp [Scene.acks, Scene.effects, h]

theorem losses_open {α : Type} {scene : Scene} {box : Monitor -> Mailbox α}
    (h : (box scene.after).isOpen = (box scene.before).isOpen) : scene.losses box = [] := by
  rw [Scene.losses, h]
  simp

theorem losses_closed {α : Type} {scene : Scene} {box : Monitor -> Mailbox α}
    (hAfter : (box scene.after).isOpen = false)
    (hCleared : (box scene.before).isOpen = false -> (box scene.before).pending = []) :
    scene.losses box = (box scene.before).pending.map fun _ => scene.before.now := by
  unfold Scene.losses
  cases hOpen : (box scene.before).isOpen with
  | true => simp [hAfter]
  | false => simp [hCleared hOpen]

theorem losses_turn {α : Type} {scene : Scene} {box : Monitor -> Mailbox α}
    {served : Mailbox α} {ended : Bool}
    (hAfter : box scene.after = if ended then .closed else served)
    (hOpen : served.isOpen = (box scene.before).isOpen)
    (hKept : ended = true -> served = box scene.before)
    (hCleared : (box scene.before).isOpen = false -> (box scene.before).pending = []) :
    scene.losses box =
      (if ended then served.pending else []).map fun _ => scene.before.now := by
  cases ended with
  | false =>
      rw [if_neg Bool.false_ne_true] at hAfter
      exact losses_open (by rw [hAfter, hOpen])
  | true =>
      rw [if_pos rfl] at hAfter
      rw [if_pos rfl, hKept rfl]
      exact losses_closed (by rw [hAfter]; rfl) hCleared

end Monitor
end TubMonitor
