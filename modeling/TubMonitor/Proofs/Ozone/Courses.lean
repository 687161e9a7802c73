import TubMonitor.Proofs.Ozone.Accounts
import TubMonitor.Proofs.Ozone.Mirror
import TubMonitor.Proofs.Passing
import TubMonitor.Proofs.Shutdown.Stillness

/-!
# The account of a course

In every course of events the log of the ozone loop is the account of its runs.  A run
expires when its deadline has come, and at that very moment if the timer goes off then.
-/

namespace TubMonitor
namespace Monitor

open Ozone (Accounted Controller)

/-!
## Deadlines that are met
-/

/-- Time does not pass over an instant at which the timer of the loop goes off. -/
def Scene.Punctual (scene : Scene) : Prop :=
  forall moment, scene.happening = .wait moment ->
    forall now, scene.before.now ≤ now -> now < moment ->
      forall served,
        ({ scene.before with now := now } : Monitor).ozoneEvent? ≠ some (.deadline, served)

def Punctual (past : List Scene) : Prop :=
  forall scene, scene ∈ past -> scene.Punctual

theorem punctual_concat {past : List Scene} {scene : Scene} (h : Punctual (past ++ [scene])) :
    Punctual past ∧ scene.Punctual :=
  ⟨fun other hMem => h other (List.mem_append_left _ hMem), h scene (by simp)⟩

theorem active_free {s : Monitor} {run : Ozone.Run} (hOrder : InOrder s)
    (hRun : s.ozone.state.active? = some run) : s.ozone.pending = none := by
  have hCall := hOrder.ozone.call
  rw [Controller.call?, Controller.active?_eq_some.mp hRun] at hCall
  exact Option.map_eq_none_iff.mp hCall

theorem deadline_event {s : Monitor} {run : Ozone.Run} (hFree : s.ozone.pending = none)
    (hRun : s.ozone.state.active? = some run) (hCancelled : s.isCancelled = false)
    (hDue : run.deadline ≤ s.now) : s.ozoneEvent? = some (.deadline, s) := by
  have hWaiting : s.ozone.state.isWaiting = true :=
    Controller.isWaiting_iff.mpr ⟨some run, Controller.active?_eq_some.mp hRun⟩
  simp [ozoneEvent?, hFree, hWaiting, hCancelled, hRun, hDue]

theorem now_unless_wait {s : Monitor} {h : Happening} (hWait : forall moment, h ≠ .wait moment) :
    (s.happen h).now = s.now := by
  cases h with
  | wait moment => exact absurd rfl (hWait moment)
  | turn turn =>
      cases hTurn : s.turn? turn with
      | none => simp [happen, hTurn]
      | some next => simpa [happen, hTurn] using (turn_steady hTurn).now
  | start =>
      cases hFresh : s.isFresh with
      | true => exact start_now hFresh
      | false => rw [happen, start_stale hFresh]
  | cancel => exact cancel_now s
  | join =>
      simp only [happen]
      split <;> rfl
  | send order =>
      have hHappens := happens s (.send order)
      generalize s.happen (.send order) = next at hHappens
      cases hHappens with
      | sent hSent =>
          rcases (send_ok hSent).2 with ⟨_, _, _, _, _, rfl⟩ | ⟨_, _, _, _, _, rfl⟩ <;> rfl
      | refused => rfl
  | _ => rfl

/-- Unless it has been cancelled, the loop does not wait with a run beyond its deadline. -/
def OnTime (past : List Scene) (s : Monitor) : Prop :=
  forall run, s.ozone.state.active? = some run -> Punctual past -> s.isCancelled = false ->
    s.now ≤ run.deadline

section OnTime

variable {past : List Scene} {s : Monitor}

theorem onTime_apart {h : Happening} (hOrder : InOrder s) (hOnTime : OnTime past s)
    (hApart : OzoneApart s h (s.happen h)) : OnTime (past ++ [⟨s, h⟩]) (s.happen h) := by
  intro run hRun hPunctual hCancelled
  rw [hApart.ozone] at hRun
  rcases punctual_concat hPunctual with ⟨hBefore, hHere⟩
  have hAwake : s.isCancelled = false := by
    cases hOld : s.isCancelled with
    | false => rfl
    | true => rw [isCancelled_happen hOld h] at hCancelled; exact hCancelled
  have hNow := hOnTime run hRun hBefore hAwake
  by_cases hWait : exists moment, h = .wait moment
  · rcases hWait with ⟨moment, rfl⟩
    refine Nat.max_le.mpr ⟨hNow, ?_⟩
    by_contra hLate
    have hFree := active_free hOrder hRun
    have hEvent := deadline_event (s := { s with now := run.deadline }) hFree hRun hAwake
      (Nat.le_refl _)
    exact hHere moment rfl run.deadline hNow (Nat.lt_of_not_le hLate) _ hEvent
  · rw [now_unless_wait fun moment hSame => hWait ⟨moment, hSame⟩]
    exact hNow

theorem move_deadline {now : Nat} {c : Controller} {event : Ozone.Event}
    {result : Controller × List Effect} {run : Ozone.Run}
    (hMove : Controller.Move now c event result) (hRun : result.1.active? = some run) :
    now ≤ run.deadline := by
  cases hMove with
  | switchedOn hPhase | failedUnfiled fault hPhase | flagged outcome hPhase =>
      cases hRun
      exact Nat.le_add_right _ _
  | spared ticket hPhase =>
      cases hPhase.symm.trans (Controller.active?_eq_some.mp hRun)
  | @unfiled run ending outcome hPhase hRow => cases ending <;> cases hRun
  | @labelled run ending stop outcome hPhase => cases ending <;> cases hRun
  | _ => cases hRun

theorem onTime_happen (hOrder : InOrder s) (hOnTime : OnTime past s) (h : Happening) :
    OnTime (past ++ [⟨s, h⟩]) (s.happen h) := by
  have hHappens := ozone_happens hOrder h
  generalize hNext : s.happen h = next at hHappens
  cases hHappens with
  | apart hApart =>
      subst hNext
      exact onTime_apart hOrder hOnTime hApart
  | start hFresh =>
      intro run hRun
      rw [start_ozone_state hFresh] at hRun
      cases hRun
  | move hMoves =>
      intro run hRun _ _
      rw [hMoves.ozone] at hRun
      rw [hMoves.now]
      exact move_deadline hMoves.move hRun
  | join hCancelled hOver =>
      intro run hRun
      have hPhase : s.ozone.state.phase = .waiting (some run) := Controller.active?_eq_some.mp hRun
      rcases ozone_over hOrder hOver with hOther | hOther <;> cases hPhase.symm.trans hOther

end OnTime

theorem onTime_after (config : Config) (now : Nat) (outside : Outside)
    (sink : Option Notice.Sink) (hs : List Happening) :
    OnTime ((assemble config now outside sink).scenes hs)
      ((assemble config now outside sink).after hs) := by
  induction hs using List.reverseRecOn with
  | nil => exact nofun
  | append_singleton hs h ih =>
      rw [scenes_concat, after_concat]
      exact onTime_happen (inOrder_after (inOrder_assemble config now outside sink) hs) ih h

/-!
## The invariant
-/

def AccountedFor (past : List Scene) (s : Monitor) : Prop :=
  Accounted (ozoneLog past) (tales past) (Punctual past) s.now s.ozone.state

section Happen

variable {past : List Scene} {s next : Monitor} {h : Happening}

theorem accountedFor_apart (hOrder : InOrder s) (hAccounted : AccountedFor past s)
    (hApart : OzoneApart s h (s.happen h)) :
    AccountedFor (past ++ [⟨s, h⟩]) (s.happen h) := by
  unfold AccountedFor
  rw [ozoneLog_concat, apart_lines hOrder hApart, List.append_nil,
    tales_none past (decision?_of_no_event hApart.event), hApart.ozone]
  exact Ozone.accounted_later hAccounted hApart.now fun hNow => (punctual_concat hNow).1

theorem tales_event {scene : Scene} {event : Ozone.Event}
    (hEvent : scene.ozoneEvent? = some event) :
    tales (past ++ [scene]) = Ozone.tell (tales past) event := by
  cases event with
  | reply reply => exact tales_none past (decision?_of_reply hEvent)
  | _ => exact tales_some past (by rw [Scene.decision?, hEvent])

theorem accountedFor_move {event : Ozone.Event} {result : Controller × List Effect}
    {served : Monitor} (hAccounted : AccountedFor past s) (hOnTime : OnTime past s)
    (hMoves : OzoneMoves s event result served next) :
    AccountedFor (past ++ [⟨s, .turn .ozone⟩]) next := by
  have hServes := hMoves.serves
  have hEarly : forall command ticket, event = .command command ticket ->
      forall run, s.ozone.state.active? = some run -> s.now < run.deadline := by
    rintro command ticket rfl
    cases hServes with
    | command hFree hWaiting hCancelled hEarly hTake => exact hEarly
  have hLimit : event = .deadline -> Punctual past ->
      forall run, s.ozone.state.active? = some run -> s.now ≤ run.deadline := by
    rintro rfl hPunctual run hRun
    cases hServes with
    | deadline hFree hOther hCancelled hDue => exact hOnTime run hRun hPunctual hCancelled
  have hMoved := Ozone.accounted_move hAccounted hMoves.move hEarly hLimit
  unfold AccountedFor
  rw [ozoneLog_concat, move_lines hMoves, tales_event hMoves.scene, hMoves.ozone, hMoves.now]
  exact Ozone.accounted_later hMoved le_rfl fun hNow => (punctual_concat hNow).1

theorem accountedFor_start (hOrder : InOrder s) (hAccounted : AccountedFor past s)
    (hFresh : s.isFresh = true) : AccountedFor (past ++ [⟨s, .start⟩]) s.start.2 := by
  unfold AccountedFor Accounted at hAccounted
  rw [ozone_unbegun hOrder hFresh] at hAccounted
  rcases hAccounted with ⟨_, hLog, hTales⟩
  unfold AccountedFor
  rw [ozoneLog_concat, start_lines hFresh, hLog, tales_none past rfl, hTales,
    start_ozone_state hFresh]
  exact ⟨rfl, rfl, s.now, rfl⟩

theorem accountedFor_join (hOrder : InOrder s) (hAccounted : AccountedFor past s)
    (hOver : s.isOver = true) : AccountedFor (past ++ [⟨s, .join⟩]) s.join := by
  unfold AccountedFor
  rw [ozoneLog_concat, join_lines, List.append_nil, tales_none past rfl]
  have hReset := Ozone.accounted_reset hAccounted (ozone_over hOrder hOver)
  exact Ozone.accounted_later hReset le_rfl fun hNow => (punctual_concat hNow).1

theorem accountedFor_happen (hOrder : InOrder s) (hAccounted : AccountedFor past s)
    (hOnTime : OnTime past s) (h : Happening) : AccountedFor (past ++ [⟨s, h⟩]) (s.happen h) := by
  have hHappens := ozone_happens hOrder h
  generalize hNext : s.happen h = next at hHappens
  cases hHappens with
  | apart hApart =>
      subst hNext
      exact accountedFor_apart hOrder hAccounted hApart
  | start hFresh => exact accountedFor_start hOrder hAccounted hFresh
  | move hMoves => exact accountedFor_move hAccounted hOnTime hMoves
  | join hCancelled hOver => exact accountedFor_join hOrder hAccounted hOver

end Happen

theorem accountedFor_after (config : Config) (now : Nat) (outside : Outside)
    (sink : Option Notice.Sink) (hs : List Happening) :
    AccountedFor ((assemble config now outside sink).scenes hs)
      ((assemble config now outside sink).after hs) := by
  induction hs using List.reverseRecOn with
  | nil => exact ⟨rfl, rfl, rfl⟩
  | append_singleton hs h ih =>
      have hOrder := inOrder_after (inOrder_assemble config now outside sink) hs
      rw [scenes_concat, after_concat]
      exact accountedFor_happen hOrder ih (onTime_after config now outside sink hs) h

end Monitor
end TubMonitor
