import Mathlib.Data.List.Induction
import TubMonitor.Monitor.Clock

/-!
# Courses of events

Everything that can happen to a monitor, one happening at a time and in any order: a
turn of one of its parts, the start and the end, a command from one of any number of
clients, a change of what lies outside, and the passing of time.  What cannot happen
in a state leaves the state as it is, so every list of happenings is a course of
events, and every course of events is one of them.
-/

namespace TubMonitor
namespace Monitor

inductive Happening where
  | turn (turn : Turn)
  | start
  | cancel
  /-- The wait for the loops is over, which takes a cancellation and the end of them all. -/
  | join
  /-- A client sends a command. -/
  | send (order : Console.Order)
  | converse (lines : List String)
  /-- The console is given up, whatever it is in the middle of. -/
  | leave
  /-- Sensors, store or the conditions of calls change without the monitor. -/
  | shift (outside : Outside)
  | wait (moment : Nat)

def happen (s : Monitor) : Happening → Monitor
  | .turn turn => (s.turn? turn).getD s
  | .start => s.start.2
  | .cancel => s.cancel
  | .join => if s.isCancelled && s.isOver then s.join else s
  | .send order => (s.send order).2
  | .converse lines =>
      { s with console := some ⟨Console.Session.start lines, none⟩, printed := [] }
  | .leave => { s with console := none, printed := [] }
  | .shift outside => { s with outside }
  | .wait moment => { s with now := max s.now moment }

def after (s : Monitor) (happenings : List Happening) : Monitor :=
  happenings.foldl happen s

@[simp] theorem after_nil (s : Monitor) : s.after [] = s := rfl

@[simp] theorem after_cons (s : Monitor) (h : Happening) (rest : List Happening) :
    s.after (h :: rest) = (s.happen h).after rest := rfl

theorem after_append (s : Monitor) (first second : List Happening) :
    s.after (first ++ second) = (s.after first).after second := by
  simp [after]

@[simp] theorem after_concat (s : Monitor) (hs : List Happening) (h : Happening) :
    s.after (hs ++ [h]) = (s.after hs).happen h := by
  simp [after]

/-- What every happening preserves holds after every course of events. -/
theorem after_invariant (holds : Monitor -> Prop) {s : Monitor} (hBefore : holds s)
    (hHappen : forall before h, holds before -> holds (before.happen h))
    (hs : List Happening) : holds (s.after hs) := by
  induction hs generalizing s with
  | nil => exact hBefore
  | cons h rest ih => exact ih (hHappen s h hBefore)

/-!
## History

A scene is a happening with the state that it finds.
-/

structure Scene where
  before : Monitor
  happening : Happening

def Scene.after (scene : Scene) : Monitor :=
  scene.before.happen scene.happening

def scenes (s : Monitor) : List Happening → List Scene
  | [] => []
  | h :: rest => ⟨s, h⟩ :: (s.happen h).scenes rest

@[simp] theorem scenes_nil (s : Monitor) : s.scenes [] = [] := rfl

@[simp] theorem scenes_cons (s : Monitor) (h : Happening) (rest : List Happening) :
    s.scenes (h :: rest) = ⟨s, h⟩ :: (s.happen h).scenes rest := rfl

theorem scenes_append (s : Monitor) (first second : List Happening) :
    s.scenes (first ++ second) = s.scenes first ++ (s.after first).scenes second := by
  induction first generalizing s with
  | nil => rfl
  | cons h rest ih => simp [ih]

@[simp] theorem scenes_concat (s : Monitor) (hs : List Happening) (h : Happening) :
    s.scenes (hs ++ [h]) = s.scenes hs ++ [⟨s.after hs, h⟩] := by
  simp [scenes_append]

theorem scenes_parted {s : Monitor} {hs : List Happening} {before since : List Scene}
    {scene : Scene} (h : s.scenes hs = before ++ scene :: since) :
    exists first rest, hs = first ++ scene.happening :: rest ∧ before = s.scenes first ∧
      scene.before = s.after first ∧ since = scene.after.scenes rest := by
  induction hs generalizing s before with
  | nil => simp at h
  | cons happening rest ih =>
      rw [scenes_cons] at h
      cases before with
      | nil =>
          cases h
          exact ⟨[], rest, rfl, rfl, rfl, rfl⟩
      | cons earliest before =>
          rcases List.cons.inj h with ⟨rfl, hRest⟩
          rcases ih hRest with ⟨first, later, rfl, rfl, hBefore, hSince⟩
          exact ⟨happening :: first, later, rfl, rfl, hBefore, hSince⟩

theorem mem_scenes {s : Monitor} {hs : List Happening} {scene : Scene}
    (h : scene ∈ s.scenes hs) :
    exists first rest, hs = first ++ scene.happening :: rest ∧ scene.before = s.after first := by
  rcases List.append_of_mem h with ⟨before, since, hScenes⟩
  rcases scenes_parted hScenes with ⟨first, rest, hSplit, _, hBefore, _⟩
  exact ⟨first, rest, hSplit, hBefore⟩

end Monitor
end TubMonitor
