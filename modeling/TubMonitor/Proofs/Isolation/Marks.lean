import TubMonitor.Proofs.Isolation.Frame
import TubMonitor.Proofs.Isolation.Tickets

/-!
# The marks that a loop leaves

Whatever there is to be told of what a loop has done, instant by instant: what it did,
which commands were sent to it and which of them were refused or lost.  Tickets are left
out, for they are drawn for all loops together.
-/

namespace TubMonitor
namespace Monitor

inductive Mark where
  | deed (effect : Effect)
  | lost
  | sent (order : Console.Order) (refusal : Option Fault)

def Scene.refusal? (scene : Scene) (order : Console.Order) : Option Fault :=
  match (scene.before.send order).1 with
  | .error fault => some fault
  | .ok _ => none

def Scene.lost (scene : Scene) : Notice.Source -> List Nat
  | .ozone => scene.losses ozoneBox
  | .leak => []
  | .temperature => scene.losses targetBox

def Scene.marks (scene : Scene) (source : Notice.Source) : List (Nat × Mark) :=
  ((scene.effects source).map (fun effect => Mark.deed effect.anonymous) ++
    ((scene.lost source).map fun _ => Mark.lost) ++
    ((scene.ownOrder? source).toList.map fun order =>
      Mark.sent order (scene.refusal? order))).map fun mark => (scene.before.now, mark)

def marks (source : Notice.Source) (past : List Scene) : List (Nat × Mark) :=
  past.flatMap fun scene => scene.marks source

theorem marks_cons (source : Notice.Source) (scene : Scene) (rest : List Scene) :
    marks source (scene :: rest) = scene.marks source ++ marks source rest := rfl

/-!
## Scenes without marks
-/

theorem lost_same {source : Notice.Source} {scene : Scene}
    (h : Same source scene.before scene.after) : scene.lost source = [] := by
  have hLoop := h.loop
  cases source with
  | ozone => exact losses_open (congrArg Mailbox.isOpen hLoop.2)
  | leak => rfl
  | temperature => exact losses_open (congrArg Mailbox.isOpen hLoop.2)

theorem ownOrder_arrival {scene : Scene} {source : Notice.Source}
    (h : scene.arrival? source = none) : scene.ownOrder? source = none := by
  unfold Scene.arrival? at h
  split at h
  · cases h
  · split at h
    · next hStart =>
        apply ownOrder_none source
        rw [Scene.order?, hStart]
    · simpa using h

theorem marks_untouched {source : Notice.Source} {scene : Scene}
    (h : Untouched source scene) : scene.marks source = [] := by
  rw [Scene.marks, h.effects, lost_same h.same, ownOrder_arrival h.arrival]
  rfl

theorem calls_untouched {source : Notice.Source} {scene : Scene} (h : Untouched source scene) :
    callsOf (scene.effects source) = [] := by
  rw [h.effects]
  rfl

theorem marks_alike {source : Notice.Source} {first second : Scene}
    (hNow : first.before.now = second.before.now)
    (hEffects : (first.effects source).map Effect.anonymous =
      (second.effects source).map Effect.anonymous)
    (hLost : first.lost source = second.lost source)
    (hOrders : (first.ownOrder? source).map (fun order => (order, first.refusal? order)) =
      (second.ownOrder? source).map fun order => (order, second.refusal? order)) :
    first.marks source = second.marks source := by
  have hDeeds : (first.effects source).map (fun effect => Mark.deed effect.anonymous) =
      (second.effects source).map fun effect => Mark.deed effect.anonymous := by
    have hMapped := congrArg (List.map Mark.deed) hEffects
    simpa [List.map_map, Function.comp_def] using hMapped
  have hSent : (first.ownOrder? source).toList.map
        (fun order => Mark.sent order (first.refusal? order)) =
      (second.ownOrder? source).toList.map
        fun order => Mark.sent order (second.refusal? order) := by
    have hMapped := congrArg
      (fun sent : Option (Console.Order × Option Fault) =>
        sent.toList.map fun pair => Mark.sent pair.1 pair.2) hOrders
    simpa [List.map_map, Function.comp_def, Option.toList_map] using hMapped
  rw [Scene.marks, Scene.marks, hDeeds, hLost, hSent, hNow]

end Monitor
end TubMonitor
