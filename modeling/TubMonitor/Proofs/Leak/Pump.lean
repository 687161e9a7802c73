import TubMonitor.Proofs.Leak.Scenes
import TubMonitor.Proofs.Sensors.Generator

/-!
# The pump

The leak loop switches the pump off, and the console switches it either way.  As long as
nobody else does, the pump is as the last of their calls left it that came through.
-/

namespace TubMonitor

/-!
## Calls that switch a device
-/

namespace Sensors

theorem isPowered?_answer_refused {o : Monitor.Outside} {now : Nat} {device : Device}
    {on : Bool} {fault : Fault}
    (h : (o.answer now (.sensors (.switch device on))).1 = .sensors (.switched (.error fault))) :
    (o.answer now (.sensors (.switch device on))).2.bank.isPowered? device =
      o.bank.isPowered? device := by
  rcases Monitor.answer_cases o now (.sensors (.switch device on)) with
    ⟨_, _, hAnswer⟩ | ⟨_, ⟨request, hCall, hAnswer⟩ | ⟨request, hCall, _⟩⟩
  · rw [hAnswer]
  · cases hCall
    rw [answer_switch] at hAnswer
    rw [hAnswer] at h ⊢
    injection h with hDim
    injection hDim with hOutcome
    rw [switch_refused hOutcome]
  · cases hCall

end Sensors

namespace Monitor

/-!
## What comes through
-/

/-- Whether the pump is powered, as far as that can be seen from outside. -/
def pump? (s : Monitor) : Option Bool :=
  s.outside.bank.isPowered? .pump

/-- The call under way with its reply, once it is due. -/
def answered? {σ : Type} (s : Monitor) (worker : Worker σ) : Option (Call × Reply) :=
  worker.pending.bind fun pending =>
    (s.reply? pending).map fun served => (pending.call, served.1)

/-- The call that comes through in a scene, of the two parts that switch the pump. -/
def Scene.answered? (scene : Scene) : Option (Call × Reply) :=
  match scene.happening with
  | .turn .leak => scene.before.answered? scene.before.leak
  | .turn .console => scene.before.console.bind scene.before.answered?
  | _ => none

/-- To what the pump is switched in a scene, and how that comes out. -/
def Scene.pumped? (scene : Scene) : Option (Bool × Except Fault Unit) :=
  match scene.answered? with
  | some (.sensors (.switch .pump on), .sensors (.switched outcome)) => some (on, outcome)
  | _ => none

/-- Nobody but the monitor switches the pump. -/
def Unmeddled (scene : Scene) : Prop :=
  scene.pumped? = none -> scene.after.pump? = scene.before.pump?

/-- The leak loop or the console has the call under way, and its turn. -/
def Scene.Carries (scene : Scene) (pending : Pending) : Prop :=
  (scene.happening = .turn .leak ∧ scene.before.leak.pending = some pending) ∨
    (scene.happening = .turn .console ∧ scene.before.ConsoleAsks pending)

theorem answered?_eq_some {σ : Type} {s : Monitor} {worker : Worker σ} {call : Call}
    {reply : Reply} (h : s.answered? worker = some (call, reply)) :
    exists pending, worker.pending = some pending ∧ pending.call = call ∧
      pending.due ≤ s.now ∧ reply = (s.outside.answer s.now call).1 := by
  rcases Option.bind_eq_some_iff.mp h with ⟨pending, hPending, hReply⟩
  rcases Option.map_eq_some_iff.mp hReply with ⟨served, hServed, hPair⟩
  cases hPair
  unfold reply? at hServed
  split at hServed
  · next hDue =>
      cases hServed
      exact ⟨pending, hPending, rfl, hDue, rfl⟩
  · cases hServed

theorem pumped?_eq_some {scene : Scene} {on : Bool} {outcome : Except Fault Unit}
    (h : scene.pumped? = some (on, outcome)) :
    exists pending, scene.Carries pending ∧ pending.call = .sensors (.switch .pump on) ∧
      pending.due ≤ scene.before.now ∧
      (scene.before.outside.answer scene.before.now pending.call).1 =
        .sensors (.switched outcome) := by
  unfold Scene.pumped? at h
  split at h
  · next on' outcome' hAnswered =>
      cases h
      unfold Scene.answered? at hAnswered
      split at hAnswered
      · next hTurn =>
          rcases answered?_eq_some hAnswered with ⟨pending, hPending, hCall, hDue, hReply⟩
          exact ⟨pending, .inl ⟨hTurn, hPending⟩, hCall, hDue, by rw [hCall, hReply]⟩
      · next hTurn =>
          rcases Option.bind_eq_some_iff.mp hAnswered with ⟨console, hConsole, hAnswer⟩
          rcases answered?_eq_some hAnswer with ⟨pending, hPending, hCall, hDue, hReply⟩
          exact ⟨pending, .inr ⟨hTurn, console, hConsole, hPending⟩, hCall, hDue,
            by rw [hCall, hReply]⟩
      · cases hAnswered
  · cases h

theorem handConsole_outside (s : Monitor) (session : Console.Session)
    (event : Console.Event) : (s.handConsole session event).outside = s.outside := by
  have hActs := handConsole_acts s session event
  generalize s.handConsole session event = next at hActs
  generalize (session.step event).2 = effects at hActs
  cases hActs with
  | sent hSent =>
      rcases (send_ok hSent).2 with ⟨_, _, _, _, _, rfl⟩ | ⟨_, _, _, _, _, rfl⟩
      · rfl
      · rfl
  | _ => rfl

theorem carries_outside {scene : Scene} {pending : Pending} (hCarries : scene.Carries pending)
    (hDue : pending.due ≤ scene.before.now) :
    scene.after.outside =
      (scene.before.outside.answer scene.before.now pending.call).2 := by
  rcases scene with ⟨s, h⟩
  rcases hCarries with ⟨rfl, hPending⟩ | ⟨rfl, console, hConsole, hPending⟩
  · have hPending : s.leak.pending = some pending := hPending
    have hDue : pending.due ≤ s.now := hDue
    simp [Scene.after, happen, turn?, leakTurn?, leakEvent?, hPending, reply?, hDue]
  · have hConsole : s.console = some console := hConsole
    have hDue : pending.due ≤ s.now := hDue
    simp [Scene.after, happen, turn?, consoleTurn?, hConsole, consoleEvent?, hPending, reply?,
      hDue, handConsole_outside]

theorem pump?_switched {scene : Scene} {on : Bool} (h : scene.pumped? = some (on, .ok ())) :
    scene.after.pump? = some on := by
  rcases pumped?_eq_some h with ⟨pending, hCarries, hCall, hDue, hReply⟩
  rw [pump?, carries_outside hCarries hDue]
  rw [hCall] at hReply ⊢
  exact Sensors.isPowered?_answer_switch hReply

theorem pump?_kept {scene : Scene} (hUnmeddled : Unmeddled scene)
    (h : forall on, scene.pumped? ≠ some (on, .ok ())) :
    scene.after.pump? = scene.before.pump? := by
  rcases hPumped : scene.pumped? with _ | ⟨on, fault | _⟩
  · exact hUnmeddled hPumped
  · rcases pumped?_eq_some hPumped with ⟨pending, hCarries, hCall, hDue, hReply⟩
    rw [pump?, carries_outside hCarries hDue]
    rw [hCall] at hReply ⊢
    exact Sensors.isPowered?_answer_refused hReply
  · exact absurd hPumped (h on)

/-- The leak loop never switches the pump on, so that is the console's doing. -/
theorem switched_by_console {scene : Scene} {outcome : Except Fault Unit}
    (hOrder : InOrder scene.before) (h : scene.pumped? = some (true, outcome)) :
    scene.happening = .turn .console ∧
      exists pending, scene.before.ConsoleAsks pending ∧
        pending.call = .sensors (.switch .pump true) := by
  rcases pumped?_eq_some h with ⟨pending, ⟨_, hPending⟩ | ⟨hTurn, hAsks⟩, hCall, _, _⟩
  · have hExpects := hOrder.leak.expects
    rw [hPending, Option.map_some, hCall] at hExpects
    cases hExpects
  · exact ⟨hTurn, pending, hAsks, hCall⟩

/-- Once it is off, the pump stays off until it is switched on. -/
theorem off_until_on {s : Monitor} (hOff : s.pump? = some false) (hs : List Happening)
    (hUnmeddled : forall scene, scene ∈ s.scenes hs -> Unmeddled scene) :
    (s.after hs).pump? = some false ∨
      exists earlier on later, s.scenes hs = earlier ++ on :: later ∧
        on.pumped? = some (true, .ok ()) := by
  induction hs using List.reverseRecOn with
  | nil => exact .inl hOff
  | append_singleton hs h ih =>
      rw [scenes_concat] at hUnmeddled
      rw [scenes_concat, after_concat]
      rcases ih fun scene hMem => hUnmeddled scene (List.mem_append_left _ hMem) with
        hStill | ⟨earlier, on, later, hScenes, hOn⟩
      · by_cases hOn : (Scene.mk (s.after hs) h).pumped? = some (true, .ok ())
        · exact .inr ⟨s.scenes hs, _, [], rfl, hOn⟩
        · left
          show (Scene.mk (s.after hs) h).after.pump? = some false
          by_cases hAgain : (Scene.mk (s.after hs) h).pumped? = some (false, .ok ())
          · exact pump?_switched hAgain
          · have hLast := hUnmeddled _ (List.mem_append_right _ (List.mem_singleton_self _))
            refine (pump?_kept hLast ?_).trans hStill
            intro on
            cases on with
            | true => exact hOn
            | false => exact hAgain
      · exact .inr ⟨earlier, on, later ++ [⟨s.after hs, h⟩], by simp [hScenes], hOn⟩

end Monitor
end TubMonitor
