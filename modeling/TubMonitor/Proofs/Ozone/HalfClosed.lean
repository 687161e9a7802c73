import TubMonitor.Proofs.Ozone.Dockets
import TubMonitor.Proofs.Ozone.Law

/-!
# Rows that contradict themselves

Each call that closes a row may fail and is not made again, so a row may stay in progress though it
says why its run has ended, or be over though its status is that of a run in progress.  Wherever the
loop waits or has ended, the first is so for the rows of which the end alone was not written down
and the second for those of which the reason alone was not.
-/

namespace TubMonitor

namespace Ozone

open Store (Row)

/-!
## Contradictions
-/

def endStatuses : List String :=
  ["Stopped manually", "Completed", "Replaced by new run", "Stopped at shutdown"]

/-- The row is in progress though it says why its run has ended. -/
def LeftRunning (row : Row Entry) : Prop :=
  exists status, row.marks? = some (true, status) ∧ status ∈ endStatuses

/-- The row is over though its status is that of a run in progress. -/
def LeftLabelled (row : Row Entry) : Prop :=
  row.marks? = some (false, runningStatus)

theorem leftRunning_value {row : Row Entry} {entry : Entry} (h : row.value? = some entry) :
    LeftRunning row ↔ entry.running = true ∧ entry.status ∈ endStatuses := by
  unfold LeftRunning
  rw [Store.marks?_of_value h]
  constructor
  · rintro ⟨status, hMarks, hMem⟩
    rcases Prod.mk.inj (Option.some.inj hMarks) with ⟨hRunning, rfl⟩
    exact ⟨hRunning, hMem⟩
  · rintro ⟨hRunning, hMem⟩
    exact ⟨entry.status, by rw [hRunning], hMem⟩

theorem leftLabelled_value {row : Row Entry} {entry : Entry} (h : row.value? = some entry) :
    LeftLabelled row ↔ entry.running = false ∧ entry.status = runningStatus := by
  unfold LeftLabelled
  rw [Store.marks?_of_value h, Option.some.injEq, Prod.mk.injEq]

/-- The end was not written down, but the reason for it was. -/
def Docket.LacksEnd (d : Docket) : Prop :=
  d.closing = some false ∧ exists ending, d.reason = some (ending, true)

/-- The end was written down, but not the reason for it nor why the generator did not come on. -/
def Docket.LacksReason (d : Docket) : Prop :=
  d.closing = some true ∧ d.failure = none ∧ exists ending, d.reason = some (ending, false)

theorem endStatus_mem (ending : Ending) : ending.status ∈ endStatuses := by
  cases ending <;> simp [Ending.status, endStatuses]

theorem failure_head (why : Fault) :
    (Controller.onFailureStatus why).toList.head? = some 'O' := by
  have hFirst : ("Ozone on failed: " : String).toList.head? = some 'O' := by decide
  show ("Ozone on failed: " ++ why.message).toList.head? = some 'O'
  rw [String.toList_append, List.head?_append, hFirst, Option.some_or]

theorem failure_not_mem (why : Fault) : Controller.onFailureStatus why ∉ endStatuses := by
  intro hMem
  have hHeads : forall status, status ∈ endStatuses -> status.toList.head? ≠ some 'O' := by decide
  exact hHeads _ hMem (failure_head why)

theorem failure_ne_running (why : Fault) : Controller.onFailureStatus why ≠ runningStatus := by
  intro hSame
  have hHead := failure_head why
  rw [hSame] at hHead
  revert hHead
  decide

theorem endStatus_ne_running (ending : Ending) : ending.status ≠ runningStatus := by
  cases ending <;> simp [Ending.status, runningStatus]

theorem running_not_mem : runningStatus ∉ endStatuses := by
  decide

/-- The status is a reason for the end if and only if that has been written down. -/
theorem status_mem_iff (d : Docket) :
    d.status ∈ endStatuses ↔ exists ending, d.reason = some (ending, true) := by
  rcases d with ⟨failure, closing, reason⟩
  constructor
  · intro hMem
    match reason, failure with
    | some (ending, true), _ => exact ⟨ending, rfl⟩
    | some (ending, false), some why => exact absurd hMem (failure_not_mem why)
    | some (ending, false), none => exact absurd hMem running_not_mem
    | none, some why => exact absurd hMem (failure_not_mem why)
    | none, none => exact absurd hMem running_not_mem
  · rintro ⟨ending, hReason⟩
    cases hReason
    exact endStatus_mem ending

theorem status_running_iff (d : Docket) :
    d.status = runningStatus ↔
      d.failure = none ∧ forall ending, d.reason ≠ some (ending, true) := by
  rcases d with ⟨failure, closing, reason⟩
  constructor
  · intro hStatus
    match reason, failure with
    | some (ending, true), _ => exact absurd hStatus (endStatus_ne_running ending)
    | some (ending, false), some why => exact absurd hStatus (failure_ne_running why)
    | some (ending, false), none => exact ⟨rfl, by simp⟩
    | none, some why => exact absurd hStatus (failure_ne_running why)
    | none, none => exact ⟨rfl, by simp⟩
  · rintro ⟨hFailure, hReason⟩
    cases hFailure
    match reason with
    | some (ending, true) => exact absurd rfl (hReason ending)
    | some (ending, false) => rfl
    | none => rfl

section

variable {d : Docket} {row : Row Entry}

theorem leftRunning_iff (h : d.Settled row) : LeftRunning row ↔ d.LacksEnd := by
  have hTried := h.tried
  unfold LeftRunning Docket.LacksEnd
  rw [h.marks]
  constructor
  · rintro ⟨status, hMarks, hMem⟩
    rcases Prod.mk.inj (Option.some.inj hMarks) with ⟨hRunning, rfl⟩
    rcases (status_mem_iff d).mp hMem with ⟨ending, hReason⟩
    refine ⟨?_, ending, hReason⟩
    rw [hReason] at hTried
    rcases Option.isSome_iff_exists.mp hTried with ⟨done, hClosing⟩
    rw [Docket.running, hClosing] at hRunning
    cases done with
    | true => cases hRunning
    | false => exact hClosing
  · rintro ⟨hClosing, hReason⟩
    have hRunning : d.running = true := by rw [Docket.running, hClosing]; rfl
    exact ⟨d.status, by rw [Docket.marks, hRunning], (status_mem_iff d).mpr hReason⟩

theorem leftLabelled_iff (h : d.Settled row) : LeftLabelled row ↔ d.LacksReason := by
  have hTried := h.tried
  unfold LeftLabelled Docket.LacksReason
  rw [h.marks]
  constructor
  · intro hMarks
    rcases Prod.mk.inj (Option.some.inj hMarks) with ⟨hRunning, hStatus⟩
    rcases (status_running_iff d).mp hStatus with ⟨hFailure, hReason⟩
    have hClosing : d.closing = some true := by simpa [Docket.running] using hRunning
    rw [hClosing] at hTried
    rcases Option.isSome_iff_exists.mp hTried.symm with ⟨⟨ending, done⟩, hTold⟩
    cases done with
    | true => exact absurd hTold (hReason ending)
    | false => exact ⟨hClosing, hFailure, ending, hTold⟩
  · rintro ⟨hClosing, hFailure, ending, hReason⟩
    have hRunning : d.running = false := by rw [Docket.running, hClosing]; rfl
    have hStatus := (status_running_iff d).mpr ⟨hFailure, by simp [hReason]⟩
    rw [Docket.marks, hRunning, hStatus]

end

/-- Where both calls have come through or both have failed, no row contradicts itself. -/
theorem whole_rows {dockets : List Docket} {added : List (Row Entry)}
    (h : List.Forall₂ Docket.Settled dockets added)
    (hWhole : forall docket, docket ∈ dockets -> docket.closing = docket.reason.map Prod.snd) :
    forall row, row ∈ added -> ¬ LeftRunning row ∧ ¬ LeftLabelled row := by
  induction h with
  | nil =>
      intro row hMem
      cases hMem
  | @cons docket first dockets added hFirst hRest ih =>
      rw [List.forall_mem_cons] at hWhole ⊢
      refine ⟨⟨?_, ?_⟩, ih hWhole.2⟩
      · rw [leftRunning_iff hFirst]
        rintro ⟨hClosing, ending, hReason⟩
        have hSame := hWhole.1
        rw [hClosing, hReason] at hSame
        cases hSame
      · rw [leftLabelled_iff hFirst]
        rintro ⟨hClosing, _, ending, hReason⟩
        have hSame := hWhole.1
        rw [hClosing, hReason] at hSame
        cases hSame

/-- Where the loop waits or has ended, every row that it has added is done with. -/
theorem docketed_rest {dockets : List Docket} {c : Controller} {added : List (Row Entry)}
    (h : Docketed dockets c added) (hRest : c.isWaiting = true ∨ c.hasEnded = true) :
    List.Forall₂ Docket.Settled dockets added := by
  unfold Docketed at h
  cases hHand : c.inHand? with
  | none =>
      rw [hHand] at h
      exact h
  | some id =>
      rw [hHand] at h
      rcases h with ⟨docket, earlier, row, rest, rfl, rfl, _, hPends, hSettled⟩
      rcases hRest with hWaiting | hEnded
      · rcases Controller.isWaiting_iff.mp hWaiting with ⟨active, hPhase⟩
        rw [hPhase] at hPends
        have hTried : docket.closing.isSome = docket.reason.isSome := by
          rw [hPends.reason, hPends.closing]
          rfl
        exact List.Forall₂.cons ⟨hPends.marks, hTried⟩ hSettled
      · rw [Controller.inHand?, Controller.hasEnded_iff.mp hEnded] at hHand
        cases hHand

end Ozone

namespace Monitor

open Ozone (Docket Ending Entry LeftLabelled LeftRunning)
open Store (Memory Row Sheet)

/-!
## The store in memory
-/

/-- In memory a request that fails leaves the entries as they are. -/
theorem memory_failed {m : Memory} {now : Time.Instant} {request : Store.Request}
    (h : (m.answer now request).1.isOk = false) : (m.answer now request).2.entries = m.entries := by
  cases request with
  | stopEntry id =>
      simp only [Memory.answer, Memory.stopEntry, Memory.amendEntry] at h ⊢
      split at h
      · cases h
      · rfl
  | setStatus id status =>
      simp only [Memory.answer, Memory.setStatus, Memory.amendEntry] at h ⊢
      split at h
      · cases h
      · rfl
  | clearRecord id =>
      simp only [Memory.answer, Memory.clearRecord] at h ⊢
      split at h
      · cases h
      · rfl
  | saveSample room water => cases h
  | latestEntry => rfl
  | startEntry start minutes => cases h
  | latestRecord => rfl
  | createRecord detected => rfl

theorem answer_spares {o : Outside} {m : Memory} {now : Nat} {call : Call} {answer : Store.Answer}
    (hMemory : o.store = .memory m) (hReply : (o.answer now call).1 = .store answer)
    (hFailed : answer.isOk = false) :
    (o.answer now call).2.store.entrySheet = o.store.entrySheet := by
  rcases answer_store_cases o now call with hSame | ⟨request, _, hAnswer, hStore⟩
  · rw [hSame]
  · cases hAnswer.symm.trans hReply
    rw [hMemory] at hStore hFailed
    rw [hStore, hMemory]
    exact congrArg Sheet.ofMemory (memory_failed hFailed)

theorem spares_memory {s : Monitor} {m : Memory} {h : Happening} (hOrder : InOrder s)
    (hMemory : s.outside.store = .memory m) : (Scene.mk s h).Spares := by
  intro answer hReply hFailed
  rw [Scene.after]
  generalize hNext : s.happen h = next
  have hHappens : OzoneHappens s h next := hNext ▸ ozone_happens hOrder h
  cases hHappens with
  | apart hApart => simp [Scene.reply?, hApart.event] at hReply
  | start hFresh => cases hReply
  | join hCancelled hOver => cases hReply
  | @move event result served next hMoves =>
      have hEvent : event = .reply (.store answer) := by
        simp only [Scene.reply?, hMoves.scene] at hReply
        split at hReply
        · cases ‹some event = some (.reply _)›
          exact congrArg _ (Option.some.inj hReply)
        · cases hReply
      rw [ozoneMoves_outside hMoves]
      subst hEvent
      rcases ozoneServes_reply hMoves.serves with ⟨pending, _, _, hAnswer, hServed⟩
      rw [hServed]
      exact answer_spares hMemory hAnswer.symm hFailed

def Scene.inMemory (scene : Scene) : Bool :=
  match scene.before.outside.store with
  | .memory _ => true
  | .database _ => false

theorem spares_own {s : Monitor} {hs : List Happening} {scene : Scene} (hOrder : InOrder s)
    (hMemory : (s.scenes hs).all Scene.inMemory = true) (hOwn : hs.all Happening.isOwn = true)
    (h : scene ∈ s.scenes hs) : scene.Undisturbed .ozone ∧ scene.Spares := by
  refine ⟨undisturbed_own .ozone hOwn h, ?_⟩
  rcases mem_scenes h with ⟨first, rest, _, hBefore⟩
  have hHere : InOrder scene.before := hBefore ▸ inOrder_after hOrder first
  have hKept := List.all_eq_true.mp hMemory scene h
  unfold Scene.inMemory at hKept
  split at hKept
  · next m hStore => exact spares_memory hHere hStore
  · cases hKept

/-!
## The law
-/

/--
The law, in every state that can be reached if a request that fails changes nothing and nobody else
writes in the table, wherever the loop waits or has ended.  The rows that have been added, latest
first, stand beside the dockets of the runs that the store has taken.  A row contradicts itself if
and only if one of the two calls that close it has failed and the other one has not; so if in every
docket both have come through or both have failed, no row does.
-/
theorem half_closed_law (config : Config) (now : Nat) (outside : Outside)
    (sink : Option Notice.Sink) (hs : List Happening) :
    let past := (assemble config now outside sink).scenes hs
    let s := (assemble config now outside sink).after hs
    outside.store.entrySheet.Numbered ->
    (forall scene, scene ∈ past -> scene.Undisturbed .ozone ∧ scene.Spares) ->
    s.ozone.state.isWaiting = true ∨ s.ozone.state.hasEnded = true ->
    exists added, s.outside.store.entrySheet.rows =
        outside.store.entrySheet.rows ++ added.reverse ∧
      List.Forall₂
        (fun docket row => row.marks? = some docket.marks ∧
          (LeftRunning row ↔ docket.LacksEnd) ∧ (LeftLabelled row ↔ docket.LacksReason))
        (dockets past) added ∧
      ((forall docket, docket ∈ dockets past ->
          docket.closing = docket.reason.map Prod.snd) ->
        forall row, row ∈ added -> ¬ LeftRunning row ∧ ¬ LeftLabelled row) := by
  intro past s hNumbered hLeft hRest
  have hDocketing := docketing_after config now outside sink hs hNumbered hLeft
  rcases hDocketing.rows with ⟨added, hRows, hDocketed⟩
  have hSettled := Ozone.docketed_rest hDocketed hRest
  refine ⟨added, hRows, ?_, ?_⟩
  · exact hSettled.imp fun docket row h =>
      ⟨h.marks, Ozone.leftRunning_iff h, Ozone.leftLabelled_iff h⟩
  · exact Ozone.whole_rows hSettled

def failing (kind : CallKind) : Monitor :=
  assemble ⟨0, 0, 1.0, 60, ""⟩ 0
    ⟨.tub .standard, .memory .empty,
      { Conditions.fair with
        fault := fun other => if other = kind then some (.storage "locked") else none }⟩
    none

def stoppedRun : List Happening :=
  [ .start, .turn .ozone, .turn .ozone, .send (.ozone (.start 5)), .turn .ozone, .turn .ozone
  , .turn .ozone, .send (.ozone .stop), .turn .ozone, .turn .ozone, .turn .ozone, .turn .ozone ]

theorem half_closed_law_stoppedRun :
    (forall scene, scene ∈ (failing .stopEntry).scenes stoppedRun ->
        scene.Undisturbed .ozone ∧ scene.Spares) ∧
      ((failing .stopEntry).after stoppedRun).ozone.state.isWaiting = true ∧
      dockets ((failing .stopEntry).scenes stoppedRun) =
        [{ closing := some false, reason := some (.manual 1, true) }] ∧
      exists row, ((failing .stopEntry).after stoppedRun).outside.store.entrySheet.rows = [row] ∧
        row.marks? = some (true, "Stopped manually") ∧ LeftRunning row ∧ ¬ LeftLabelled row := by
  have hScene : forall scene, scene ∈ (failing .stopEntry).scenes stoppedRun ->
      scene.Undisturbed .ozone ∧ scene.Spares := fun scene hMem =>
    spares_own (inOrder_assemble ..) (by decide +kernel) (by decide) hMem
  have hWaiting : ((failing .stopEntry).after stoppedRun).ozone.state.isWaiting = true := by
    decide +kernel
  have hDockets : dockets ((failing .stopEntry).scenes stoppedRun) =
      [{ closing := some false, reason := some (.manual 1, true) }] := by decide +kernel
  rcases half_closed_law _ _ _ _ stoppedRun (Sheet.empty_numbered 0) hScene (Or.inl hWaiting) with
    ⟨added, hRows, hEach, _⟩
  rw [show dockets ((assemble _ _ _ _).scenes stoppedRun) = _ from hDockets] at hEach
  rcases List.forall₂_cons_left_iff.mp hEach with
    ⟨row, rest, ⟨hMarks, hRunning, hLabelled⟩, hRest, rfl⟩
  cases List.forall₂_nil_left_iff.mp hRest
  refine ⟨hScene, hWaiting, hDockets, row, hRows, hMarks, hRunning.mpr ⟨rfl, .manual 1, rfl⟩, ?_⟩
  rw [hLabelled]
  rintro ⟨hClosing, _⟩
  cases hClosing

/-- A row is left in progress with a reason for its end, or is over without one. -/
theorem half_closed_rows :
    ((forall scene, scene ∈ (failing .stopEntry).scenes stoppedRun ->
        scene.Undisturbed .ozone ∧ scene.Spares) ∧
      ((failing .stopEntry).after stoppedRun).ozone.state.isWaiting = true ∧
      exists row entry,
        ((failing .stopEntry).after stoppedRun).outside.store.entrySheet.rows = [row] ∧
        row.value? = some entry ∧ entry.running = true ∧ entry.status = "Stopped manually" ∧
        LeftRunning row) ∧
    (forall scene, scene ∈ (failing .setStatus).scenes stoppedRun ->
        scene.Undisturbed .ozone ∧ scene.Spares) ∧
      ((failing .setStatus).after stoppedRun).ozone.state.isWaiting = true ∧
      exists row entry,
        ((failing .setStatus).after stoppedRun).outside.store.entrySheet.rows = [row] ∧
        row.value? = some entry ∧ entry.running = false ∧ entry.status = "Running" ∧
        LeftLabelled row := by
  have hScene (kind : CallKind)
      (hMemory : ((failing kind).scenes stoppedRun).all Scene.inMemory = true) :
      forall scene, scene ∈ (failing kind).scenes stoppedRun ->
        scene.Undisturbed .ozone ∧ scene.Spares := fun scene hMem =>
    spares_own (inOrder_assemble ..) hMemory (by decide) hMem
  refine ⟨⟨hScene _ (by decide +kernel), by decide +kernel, ?_⟩,
    hScene _ (by decide +kernel), by decide +kernel, ?_⟩
  · refine ⟨_, _, by rfl, by rfl, by rfl, by rfl, ?_⟩
    exact (Ozone.leftRunning_value rfl).mpr ⟨rfl, by decide⟩
  · refine ⟨_, _, by rfl, by rfl, by rfl, by rfl, ?_⟩
    exact (Ozone.leftLabelled_value rfl).mpr ⟨rfl, rfl⟩

end Monitor
end TubMonitor
