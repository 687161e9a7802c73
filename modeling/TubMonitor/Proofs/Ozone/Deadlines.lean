import TubMonitor.Proofs.Ozone.Gaps

/-!
# The law of deadlines

A run lasts for as long as it was started for, counted from the moment it has begun.  What
the panel shows as its end is counted from the moment its beginning was asked for, so it
comes no later.
-/

namespace TubMonitor
namespace Ozone

open Time (instantOf millisPerMinute)

/-!
## The times of a run
-/

/-- How the times of a run that has begun lie. -/
structure KeepsTime (d : Debut) : Prop where
  begun : d.asked ≤ d.begun
  deadline : d.deadline = d.begun + d.minutes * millisPerMinute
  /-- Counted from where the generator came on, however long the row had taken. -/
  came : d.came = .ok () -> d.deadline = d.switched + d.minutes * millisPerMinute
  stop : d.published.stop = some (instantOf (d.asked + d.minutes * millisPerMinute))
  early : d.asked + d.minutes * millisPerMinute ≤ d.deadline
  prompt : d.begun = d.asked -> d.asked + d.minutes * millisPerMinute = d.deadline

theorem keepsTime (d : Debut) : KeepsTime d where
  begun := d.inTime
  deadline := rfl
  came := by
    intro hCame
    have hNone : d.flagged = none := by
      have hFlags := d.flags
      rw [hCame] at hFlags
      simpa [Except.isOk, Except.toBool] using hFlags
    simp [Debut.deadline, Debut.begun, hNone]
  stop := congrArg some (Time.addMinutes_instantOf d.asked d.minutes)
  early := Nat.add_le_add_right d.inTime _
  prompt := by
    intro hSame
    rw [Debut.deadline, hSame]

/-- The whole seconds from now to the end that is shown, if that is still to come. -/
def Debut.secondsLeft (d : Debut) (now : Nat) : Nat :=
  (d.asked + d.minutes * millisPerMinute - now) / 1000

theorem remainingSeconds_published (d : Debut) (now : Nat) :
    d.published.remainingSeconds (instantOf now) = some (d.secondsLeft now : Int) := by
  simp only [RunState.remainingSeconds, RunState.remainingNanos, Debut.published,
    RunState.started, if_true, Option.map_some, Time.addMinutes_instantOf, Time.since_instantOf,
    Time.Instant.nanosPerSecond, Debut.secondsLeft, Option.some.injEq]
  omega

theorem secondsLeft_le {d : Debut} {now : Nat} (hAsked : d.asked ≤ now) :
    d.secondsLeft now ≤ 60 * d.minutes := by
  simp only [Debut.secondsLeft, millisPerMinute]
  omega

theorem secondsLeft_later (d : Debut) {now later : Nat} (hLater : now ≤ later) :
    d.secondsLeft later ≤ d.secondsLeft now :=
  Nat.div_le_div_right (Nat.sub_le_sub_left hLater _)

theorem remainingSeconds_off {shown : RunState} (hOff : shown.running = false)
    (now : Time.Instant) : shown.remainingSeconds now = none := by
  simp [RunState.remainingSeconds, RunState.remainingNanos, hOff]

/-- How a run that is over has kept to its deadline. -/
structure EndsInTime (t : Stint) : Prop where
  expired : t.ending = .expired -> t.decided = t.debut.deadline
  manual : forall ticket, t.ending = .manual ticket -> t.decided < t.debut.deadline
  replaced : forall minutes ticket, t.ending = .replaced minutes ticket ->
    t.decided < t.debut.deadline

theorem endsInTime {t : Stint} {prompt : Prop} (hPrompt : prompt)
    (h : Timely prompt t.debut t.ending t.decided) : EndsInTime t where
  expired := fun hEnding => Nat.le_antisymm (h.prompt hPrompt hEnding) (h.expired hEnding)
  manual := h.manual
  replaced := h.replaced

end Ozone

namespace Monitor

open Ozone (Controller Debut EndsInTime KeepsTime Latest)

section Deadlines

variable {past : List Scene} {s : Monitor} {run : Ozone.Run}

/-- The run that the loop waits with is the one that began last. -/
theorem active_latest (hAccounted : AccountedFor past s)
    (hRun : s.ozone.state.active? = some run) :
    exists d, Latest (ozoneLog past) d ∧ run = d.run ∧ s.snapshot.ozone = d.published := by
  unfold AccountedFor Ozone.Accounted at hAccounted
  rw [Controller.active?_eq_some.mp hRun] at hAccounted
  rcases hAccounted with ⟨stints, d, hCurrent, hRecounted⟩
  rw [← List.append_nil d.lines] at hRecounted
  exact ⟨d, Ozone.recounted_latest hRecounted List.not_mem_nil, hCurrent.run, hCurrent.shown⟩

theorem remaining_published {d : Debut} (hShown : s.snapshot.ozone = d.published) :
    s.snapshot.remaining = some (d.secondsLeft s.now : Int) := by
  rw [← Ozone.remainingSeconds_published, ← hShown]
  rfl

theorem latest_asked {d : Debut} {now : Nat} (hLatest : Latest (ozoneLog past) d)
    (hPast : Chronological now (ozoneLog past)) : d.asked ≤ now := by
  rcases hLatest with ⟨before, after, hLog, _⟩
  have hMem : Ozone.made d.asked (.store (.startEntry (Time.instantOf d.asked) d.minutes)) ∈
      ozoneLog past := by
    rw [hLog]
    simp [Debut.lines, Ozone.filing]
  exact hPast.past _ hMem

theorem deadline_due (hOrder : InOrder s) (hRun : s.ozone.state.active? = some run)
    (hDue : run.deadline ≤ s.now) (hCancelled : s.isCancelled = false) :
    (Scene.mk s (.turn .ozone)).ozoneEvent? = some .deadline ∧
      (Scene.mk s (.turn .ozone)).effects .ozone = [.call (.sensors (.switch .ozone false))] := by
  have hEvent : (Scene.mk s (.turn .ozone)).ozoneEvent? = some .deadline := by
    simp [Scene.ozoneEvent?, deadline_event (active_free hOrder hRun) hRun hCancelled hDue]
  refine ⟨hEvent, ?_⟩
  simp only [Scene.effects, hEvent, Option.map_some, Option.getD_some]
  rw [Controller.step_of_move (.expired (Controller.active?_eq_some.mp hRun) hDue)]
  rfl

/-- A loop that has nothing to do has not been cancelled and waits for a later deadline. -/
theorem idle_early (hOrder : InOrder s) (hRun : s.ozone.state.active? = some run)
    (hIdle : s.turn? .ozone = none) : s.isCancelled = false ∧ s.now < run.deadline := by
  have hNone : s.ozoneEvent? = none := by simpa [turn?, ozoneTurn?] using hIdle
  have hFree := active_free hOrder hRun
  have hWaiting : s.ozone.state.isWaiting = true :=
    Controller.isWaiting_iff.mpr ⟨some run, Controller.active?_eq_some.mp hRun⟩
  have hCancelled : s.isCancelled = false := by
    cases hCalled : s.isCancelled with
    | false => rfl
    | true => simp [ozoneEvent?, hFree, hWaiting, hCalled] at hNone
  refine ⟨hCancelled, ?_⟩
  by_contra hLate
  cases hNone.symm.trans (deadline_event hFree hRun hCancelled (Nat.le_of_not_lt hLate))

/-- While the loop waits with a run, whatever it serves is a decision. -/
theorem active_happen {h : Happening} (hOrder : InOrder s)
    (hRun : s.ozone.state.active? = some run) (hNone : (Scene.mk s h).decision? = none) :
    (s.happen h).ozone = s.ozone := by
  have hPhase := Controller.active?_eq_some.mp hRun
  have hHappens := ozone_happens hOrder h
  generalize s.happen h = next at hHappens
  cases hHappens with
  | apart hApart => exact hApart.ozone
  | start hFresh => cases hPhase.symm.trans (ozone_unbegun hOrder hFresh)
  | join hCancelled hOver =>
      rcases ozone_over hOrder hOver with hOther | hOther <;> cases hPhase.symm.trans hOther
  | @move event result served _ hMoves =>
      cases event with
      | reply reply =>
          rcases ozoneServes_reply hMoves.serves with ⟨pending, hPending, _⟩
          cases (active_free hOrder hRun).symm.trans hPending
      | _ => simp [Scene.decision?, hMoves.scene] at hNone

theorem active_after (hOrder : InOrder s) (hRun : s.ozone.state.active? = some run)
    (rest : List Happening)
    (hNone : forall scene, scene ∈ s.scenes rest -> scene.decision? = none) :
    (s.after rest).ozone = s.ozone := by
  induction rest generalizing s with
  | nil => rfl
  | cons h rest ih =>
      have hSame := active_happen hOrder hRun (hNone _ List.mem_cons_self)
      have hRest := ih (inOrder_happen hOrder h) (hSame.symm ▸ hRun) fun scene hMem =>
        hNone scene (List.mem_cons_of_mem _ hMem)
      rw [after_cons, hRest, hSame]

end Deadlines

/-!
## The law
-/

/--
The law, in every state that can be reached.  If the timer goes off when it is due the loop
does not wait with a run beyond its deadline, and ends it just then unless it is to end before.
The panel counts down to the end that it shows while it shows a run, and only then.
-/
theorem deadline_law (config : Config) (now : Nat) (outside : Outside)
    (sink : Option Notice.Sink) (hs : List Happening) :
    let past := (assemble config now outside sink).scenes hs
    let s := (assemble config now outside sink).after hs
    (forall run, s.ozone.state.active? = some run ->
      exists d, Latest (ozoneLog past) d ∧ run = d.run ∧ KeepsTime d ∧
        (s.turn? .ozone = none -> s.now < d.deadline) ∧
        (Punctual past -> s.isCancelled = false -> s.now ≤ d.deadline) ∧
        (s.isCancelled = false -> d.deadline ≤ s.now ->
          (Scene.mk s (.turn .ozone)).ozoneEvent? = some .deadline ∧
            (Scene.mk s (.turn .ozone)).effects .ozone =
              [.call (.sensors (.switch .ozone false))])) ∧
      (Punctual past ->
        exists a : Ozone.Chronicle, ozoneLog past <+: a.lines ∧ a.tales <+: tales past ∧
          forall t, t ∈ a.stints -> KeepsTime t.debut ∧ EndsInTime t) ∧
      (s.snapshot.ozone.running = true ->
        exists d, Latest (ozoneLog past) d ∧ KeepsTime d ∧ s.snapshot.ozone = d.published ∧
          s.snapshot.remaining = some (d.secondsLeft s.now : Int) ∧
          d.secondsLeft s.now ≤ 60 * d.minutes) ∧
      (s.snapshot.ozone.running = false -> s.snapshot.remaining = none) ∧
      (forall rest, s.ozone.state.active?.isSome = true ->
        (forall scene, scene ∈ s.scenes rest -> scene.decision? = none) ->
        (s.after rest).snapshot.ozone = s.snapshot.ozone ∧
          exists before after, s.snapshot.remaining = some before ∧
            (s.after rest).snapshot.remaining = some after ∧ after ≤ before) := by
  intro past s
  have hOrder : InOrder s := inOrder_after (inOrder_assemble config now outside sink) hs
  have hAccounted : AccountedFor past s := accountedFor_after config now outside sink hs
  have hOnTime : OnTime past s := onTime_after config now outside sink hs
  refine ⟨?_, ?_, ?_, ?_, ?_⟩
  · intro run hRun
    rcases active_latest hAccounted hRun with ⟨d, hLatest, rfl, _⟩
    exact ⟨d, hLatest, rfl, Ozone.keepsTime d, fun hIdle => (idle_early hOrder hRun hIdle).2,
      hOnTime d.run hRun, fun hCancelled hDue => deadline_due hOrder hRun hDue hCancelled⟩
  · intro hPunctual
    rcases Ozone.accounted_part hAccounted with ⟨a, hPart⟩
    exact ⟨a, hPart.lines, hPart.tales, fun t hMem =>
      ⟨Ozone.keepsTime t.debut, Ozone.endsInTime hPunctual (hPart.timely t hMem)⟩⟩
  · intro hOn
    rcases Ozone.accounted_shown hAccounted hOn with ⟨d, hLatest, hShown⟩
    have hAsked := latest_asked hLatest (ozoneLog_chronological config now outside sink hs)
    exact ⟨d, hLatest, Ozone.keepsTime d, hShown, remaining_published hShown,
      Ozone.secondsLeft_le hAsked⟩
  · intro hOff
    exact Ozone.remainingSeconds_off hOff _
  · intro rest hSome hNone
    rcases Option.isSome_iff_exists.mp hSome with ⟨run, hRun⟩
    have hSame := active_after hOrder hRun rest hNone
    rcases active_latest hAccounted hRun with ⟨d, _, _, hShown⟩
    have hLater : (s.after rest).snapshot.ozone = s.snapshot.ozone :=
      congrArg (fun worker => worker.state.shown) hSame
    exact ⟨hLater, d.secondsLeft s.now, d.secondsLeft (s.after rest).now,
      remaining_published hShown, remaining_published (hLater.trans hShown),
      Int.ofNat_le.mpr (Ozone.secondsLeft_later d (now_after s rest))⟩

/-- Time goes no further than to the deadline of the run that the loop waits with. -/
def Scene.punctuates (scene : Scene) : Bool :=
  match scene.happening with
  | .wait moment => scene.before.ozone.state.active?.any fun run => moment ≤ run.deadline
  | _ => true

theorem punctual_of_punctuates {scene : Scene} (h : scene.punctuates = true) :
    scene.Punctual := by
  intro moment hWait now hFrom hTo served hEvent
  simp only [Scene.punctuates, hWait] at h
  rcases (Option.any_eq_true ..).mp h with ⟨run, hRun, hLimit⟩
  cases ozoneEvent_serves hEvent with
  | deadline hFree hOther hNot hDue =>
      cases Option.some.inj (hRun.symm.trans hOther)
      have hLate : now < now := Nat.lt_of_lt_of_le hTo ((of_decide_eq_true hLimit).trans hDue)
      exact absurd hLate (Nat.lt_irrefl now)

def fullRun : List Happening :=
  [ .start, .turn .ozone, .turn .ozone, .send (.ozone (.start 5)), .turn .ozone, .turn .ozone
  , .turn .ozone, .wait 300000 ]

theorem deadline_law_fullRun :
    Punctual (simulated.scenes fullRun) ∧
      exists d, Latest (ozoneLog (simulated.scenes fullRun)) d ∧
        (simulated.after fullRun).ozone.state.active? = some d.run ∧ d.deadline = 300000 ∧
        (simulated.after fullRun).now ≤ d.deadline ∧
        (Scene.mk (simulated.after fullRun) (.turn .ozone)).ozoneEvent? = some .deadline ∧
        (Scene.mk (simulated.after fullRun) (.turn .ozone)).effects .ozone =
          [.call (.sensors (.switch .ozone false))] := by
  have hTested : (simulated.scenes fullRun).all Scene.punctuates = true := by decide +kernel
  have hPunctual : Punctual (simulated.scenes fullRun) := fun scene hMem =>
    punctual_of_punctuates (List.all_eq_true.mp hTested scene hMem)
  have hDeadline : (simulated.after fullRun).ozone.state.active?.map Ozone.Run.deadline =
      some 300000 := by decide +kernel
  have hNow : (simulated.after fullRun).now = 300000 := by decide +kernel
  have hCancelled : (simulated.after fullRun).isCancelled = false := by decide +kernel
  rcases Option.map_eq_some_iff.mp hDeadline with ⟨run, hRun, hLast⟩
  have hLaw := deadline_law ⟨0, 0, 1.0, 60, ""⟩ 0 ⟨.tub .standard, .memory .empty, .fair⟩ none
    fullRun
  rcases hLaw.1 run hRun with ⟨d, hLatest, rfl, _, _, hLimit, hDue⟩
  exact ⟨hPunctual, d, hLatest, hRun, hLast, hLimit hPunctual hCancelled,
    hDue hCancelled (Nat.le_of_eq (hLast.trans hNow.symm))⟩

end Monitor
end TubMonitor
