import TubMonitor.Proofs.FileTree.Writing
import TubMonitor.Proofs.Replies

/-!
# The generator

What the outside shows of the generator.  A script and a simulated tub know it; device
files show it as the level of its line.  A call that switches it and comes through
leaves it as it was asked to be.
-/

namespace TubMonitor
namespace Sensors

theorem Wiring.level?_levelText (on : Bool) : level? (levelText on) = some on := by
  cases on <;> rfl

theorem isOn_switch {w : Wiring} {t switched : FileTree} {device : Device} {on : Bool}
    (h : w.switch t device on = .ok switched) : w.isOn switched device = .ok on := by
  unfold Wiring.switch at h
  cases hWrite : t.writeText (w.linePath (w.pin device)) (Wiring.levelText on) with
  | error fault => simp [hWrite] at h
  | ok written =>
      simp only [hWrite, Except.ok.injEq] at h
      have hRead := FileTree.readText_writeText hWrite
      rw [h] at hRead
      unfold Wiring.isOn Wiring.readLine
      simp only [hRead, Wiring.level?_levelText]

/-- Whether a device is powered, where that can be seen. -/
def Bank.isPowered? (b : Bank) (device : Device) : Option Bool :=
  match b with
  | .script s => some (s.power.get device)
  | .tub t => some (t.power.get device)
  | .files wiring tree => (wiring.isOn tree device).toOption

theorem isPowered?_switch {b : Bank} {device : Device} {on : Bool}
    (h : (b.switch device on).1 = .ok ()) :
    (b.switch device on).2.isPowered? device = some on := by
  unfold Bank.switch at h
  unfold Bank.switch Bank.isPowered?
  cases b with
  | script s => exact congrArg some (Power.get_set_self ..)
  | tub t => exact congrArg some (Power.get_set_self ..)
  | files wiring tree =>
      dsimp only at h
      dsimp only
      cases hSwitch : wiring.switch tree device on with
      | error fault => simp [hSwitch] at h
      | ok switched => simp [isOn_switch hSwitch, Except.toOption]

theorem switch_refused {b : Bank} {device : Device} {on : Bool} {fault : Fault}
    (h : (b.switch device on).1 = .error fault) : (b.switch device on).2 = b := by
  unfold Bank.switch at h ⊢
  cases b with
  | script s => cases h
  | tub t => cases h
  | files wiring tree =>
      dsimp only at h ⊢
      cases hSwitch : wiring.switch tree device on with
      | error fault => rfl
      | ok switched =>
          rw [hSwitch] at h
          cases h

theorem answer_switch (b : Bank) (device : Device) (on : Bool) :
    b.answer (.switch device on) =
      (.switched (b.switch device on).1, (b.switch device on).2) := rfl

theorem isPowered?_answer_switch {o : Monitor.Outside} {now : Nat} {device : Device} {on : Bool}
    (h : (o.answer now (.sensors (.switch device on))).1 = .sensors (.switched (.ok ()))) :
    (o.answer now (.sensors (.switch device on))).2.bank.isPowered? device = some on := by
  rcases Monitor.answer_cases o now (.sensors (.switch device on)) with
    ⟨fault, _, hAnswer⟩ | ⟨_, ⟨request, hCall, hAnswer⟩ | ⟨request, hCall, _⟩⟩
  · rw [hAnswer] at h
    cases h
  · cases hCall
    rw [answer_switch] at hAnswer
    rw [hAnswer] at h ⊢
    injection h with hDim
    injection hDim with hOutcome
    exact isPowered?_switch hOutcome
  · cases hCall

end Sensors
end TubMonitor
