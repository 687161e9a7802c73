import TubMonitor.Proofs.Ozone.Power
import TubMonitor.Proofs.Ozone.Tracking

/-!
# The law of the ozone loop

Whenever the loop waits, the panel shows a run in progress if and only if the loop has
one, which is so if and only if the last thing it decided was to start one.  What the
panel shows is that run and no earlier one, whatever calls have failed and whatever the
store holds.  As long as the loop is obeyed, the generator is on exactly then.
-/

namespace TubMonitor
namespace Monitor

/--
The law, in every state that can be reached.  The row shown was opened after the last
decision, by the only opening since.  The generator follows where the loop is obeyed.
-/
theorem ozone_control_law (config : Config) (now : Nat) (outside : Outside)
    (sink : Option Notice.Sink) (hs : List Happening) :
    let past := (assemble config now outside sink).scenes hs
    let s := (assemble config now outside sink).after hs
    (s.ozone.state.isWaiting = true ->
      (s.snapshot.ozone.running = true ↔ s.ozone.state.active?.isSome = true) ∧
        (s.snapshot.ozone.running = true ↔
          exists d minutes, lastDecision? past = some d ∧ d.Starts minutes) ∧
        (forall d minutes, lastDecision? past = some d -> d.Starts minutes ->
          exists start, s.snapshot.ozone.start = some start ∧
            s.snapshot.ozone.minutes = minutes ∧ OpenedFor s d start minutes) ∧
        ((forall scene, scene ∈ past -> Obeyed scene) ->
          s.generator? = some s.snapshot.ozone.running)) ∧
      (s.ozone.state.hasEnded = true -> s.snapshot.ozone.running = false) := by
  intro past s
  have hTracks : Tracks past s := tracks_after config now outside sink hs
  have hPowered : (forall scene, scene ∈ past -> Obeyed scene) -> Powered s :=
    powered_after config now outside sink hs
  have hShown : s.snapshot.ozone = s.ozone.state.shown := rfl
  rw [hShown]
  unfold Tracks at hTracks
  unfold Powered at hPowered
  constructor
  · intro hWaiting
    rcases Ozone.Controller.isWaiting_iff.mp hWaiting with ⟨active, hPhase⟩
    have hActive : s.ozone.state.active? = active := by
      simp [Ozone.Controller.active?, hPhase]
    rw [hPhase] at hTracks hPowered
    rw [hActive]
    cases active with
    | none =>
        have hNever : ¬ exists d minutes, lastDecision? past = some d ∧ d.Starts minutes := by
          rintro ⟨d, minutes, hLast, hStarts⟩
          exact hTracks.1 d minutes hLast hStarts
        refine ⟨by simp [hTracks.2], ?_, ?_, ?_⟩
        · rw [hTracks.2]
          exact iff_of_false Bool.false_ne_true hNever
        · intro d minutes hLast hStarts
          exact absurd ⟨d, minutes, hLast, hStarts⟩ hNever
        · intro hObeyed
          rw [hPowered hObeyed, hTracks.2]
          rfl
    | some run =>
        rcases hTracks with ⟨hOn, hStart, hMinutes, d, hLast, hOpened⟩
        refine ⟨by simp [hOn], ?_, ?_, ?_⟩
        · simp only [hOn, true_iff]
          exact ⟨d, run.minutes, hLast, hOpened.starts⟩
        · intro other minutes hOther hStarts
          rw [hLast] at hOther
          cases hOther
          rcases hStarts with ⟨ticket, hEvent⟩
          rcases hOpened.starts with ⟨_, hSame⟩
          rw [hEvent] at hSame
          cases hSame
          exact ⟨run.start, hStart, hMinutes, hOpened⟩
        · intro hObeyed
          rw [hPowered hObeyed, hOn]
          rfl
  · intro hEnded
    rw [Ozone.Controller.hasEnded_iff.mp hEnded] at hTracks
    exact hTracks

def simulated : Monitor :=
  assemble ⟨0, 0, 1.0, 60, ""⟩ 0 ⟨.tub .standard, .memory .empty, .fair⟩ none

def firstRun : List Happening :=
  [ .start, .turn .ozone, .turn .ozone, .send (.ozone (.start 5)), .turn .ozone, .turn .ozone
  , .turn .ozone ]

theorem ozone_control_law_firstRun :
    (simulated.after firstRun).ozone.state.isWaiting = true ∧
      (forall scene, scene ∈ simulated.scenes firstRun -> Obeyed scene) ∧
      (simulated.after firstRun).snapshot.ozone.running = true ∧
      (simulated.after firstRun).generator? = some true := by
  have hWaiting : (simulated.after firstRun).ozone.state.isWaiting = true := by decide
  have hTested : (simulated.scenes firstRun).all obeys = true := by decide
  have hObeyed : forall scene, scene ∈ simulated.scenes firstRun -> Obeyed scene :=
    fun scene hScene => obeyed_of_obeys (List.all_eq_true.mp hTested scene hScene)
  have hActive : (simulated.after firstRun).ozone.state.active?.isSome = true := by decide
  have hLaw := (ozone_control_law ⟨0, 0, 1.0, 60, ""⟩ 0
    ⟨.tub .standard, .memory .empty, .fair⟩ none firstRun).1 hWaiting
  have hRunning := hLaw.1.mpr hActive
  have hPower := hLaw.2.2.2 hObeyed
  exact ⟨hWaiting, hObeyed, hRunning, hPower.trans (congrArg some hRunning)⟩

end Monitor
end TubMonitor
