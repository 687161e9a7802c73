import TubMonitor.Proofs.Ozone.Owners

/-!
# What has been written in the rows

The end of a run is written in its row by one call and the reason for it by another, and either
may fail without the other.  A docket keeps for one row what its calls have come to.  Phase by
phase, each row that the loop has added says what its docket says.
-/

namespace TubMonitor

namespace Store

open Time (Instant)

/-!
## Marks
-/

/-- What a row says of its run: whether it is in progress, and its status. -/
def Row.marks? : Row Ozone.Entry -> Option (Bool × String)
  | .kept entry => some (entry.running, entry.status)
  | .cells _ [_, _, _, running, status] => do some (← running.bool?, ← status.string?)
  | .cells _ _ => none

/-- The marks of a row can be read also where the row as a whole cannot. -/
theorem marks?_of_value {row : Row Ozone.Entry} {entry : Ozone.Entry}
    (h : row.value? = some entry) : row.marks? = some (entry.running, entry.status) := by
  cases row with
  | kept row =>
      cases h
      rfl
  | cells id held =>
      rcases entry?_cases h with
        ⟨start, stop, minutes, running, status, rfl, _, _, _, hRunning, hStatus, _⟩
      simp [Row.marks?, hRunning, hStatus]

theorem marks?_cells {id : Int} {held : List Cell} {marks : Bool × String}
    (h : (Row.cells id held).marks? = some marks) :
    exists start stop minutes running status, held = [start, stop, minutes, running, status] ∧
      running.bool? = some marks.1 ∧ status.string? = some marks.2 := by
  unfold Row.marks? at h
  split at h
  · cases ‹Row.cells id held = .kept _›
  · next start stop minutes running status hCells =>
      cases hCells
      simp only [Option.bind_eq_bind, Option.bind_eq_some_iff, Option.some.injEq] at h
      rcases h with ⟨_, hRunning, _, hStatus, rfl⟩
      exact ⟨start, stop, minutes, running, status, rfl, hRunning, hStatus⟩
  · cases h

theorem marks?_closed (now : Instant) {row : Row Ozone.Entry} {marks : Bool × String}
    (h : row.marks? = some marks) : (closed now row).marks? = some (false, marks.2) := by
  cases row with
  | kept row =>
      cases h
      rfl
  | cells id held =>
      rcases marks?_cells h with ⟨start, stop, minutes, running, status, rfl, _, hStatus⟩
      simp [closed, Row.changed, Database.closeCells, Row.marks?, Cell.ofBool, Cell.bool?, hStatus]

theorem marks?_labelled (text : String) {row : Row Ozone.Entry} {marks : Bool × String}
    (h : row.marks? = some marks) : (labelled text row).marks? = some (marks.1, text) := by
  cases row with
  | kept row =>
      cases h
      rfl
  | cells id held =>
      rcases marks?_cells h with ⟨start, stop, minutes, running, status, rfl, hRunning, _⟩
      simp [labelled, Row.changed, Database.labelCells, Row.marks?, Cell.string?, hRunning]

theorem marks?_started {s : Store} {now start : Instant} {minutes : Nat} {row : Row Ozone.Entry}
    (h : (s.answer now (.startEntry start minutes)).2.entrySheet = s.entrySheet.push row) :
    row.marks? = some (true, Ozone.runningStatus) := by
  have hRows := congrArg Sheet.rows h
  cases s with
  | memory m =>
      have hRow : Row.kept (begun (m.entries.length + 1) start minutes) = row := by
        simpa [answer, Memory.answer, Memory.startEntry, Memory.counted, entrySheet,
          Sheet.ofMemory, Sheet.push, Memory.nextId, begun] using hRows
      rw [← hRow]
      rfl
  | database d =>
      have hRow : Row.cells (d.entries.lastId + 1) (Database.entryCells (begun 0 start minutes)) =
          row := by
        simpa [answer, Database.answer, Database.startEntry, entrySheet, Sheet.ofTable,
          Sheet.push, Table.insert, begun] using hRows
      rw [← hRow]
      simp [Row.marks?, Database.entryCells, begun, Cell.ofBool, Cell.bool?, Cell.string?]

end Store

namespace Ozone

open Monitor (Effect)
open Store (Row)

/-!
## Dockets
-/

/-- What the calls for one row have come to. -/
structure Docket where
  /-- Why the generator did not come on, if that has been written down. -/
  failure : Option Fault := none
  /-- Whether the end has been written down, once that has been tried. -/
  closing : Option Bool := none
  /-- Why the run has ended and whether that has been written down, once it has been tried. -/
  reason : Option (Ending × Bool) := none
deriving DecidableEq, Repr

namespace Docket

def running (d : Docket) : Bool :=
  d.closing != some true

def status (d : Docket) : String :=
  match d.reason, d.failure with
  | some (ending, true), _ => ending.status
  | _, some why => Controller.onFailureStatus why
  | _, none => runningStatus

def marks (d : Docket) : Bool × String :=
  (d.running, d.status)

end Docket

/-- What one call has come to. -/
inductive Writing where
  | opened
  | flagged (why : Fault)
  | closed (done : Bool)
  | labelled (ending : Ending) (done : Bool)
deriving DecidableEq, Repr

/-- The docket of the latest row stands first, and it is the one that is written on. -/
def enter (dockets : List Docket) : Writing -> List Docket
  | .opened => {} :: dockets
  | .flagged why => dockets.modifyHead fun d => { d with failure := some why }
  | .closed done => dockets.modifyHead fun d => { d with closing := some done }
  | .labelled ending done => dockets.modifyHead fun d => { d with reason := some (ending, done) }

/-- The run of the row is in the hands of the loop, which is at a phase. -/
structure Docket.Pends (phase : Phase) (d : Docket) (row : Row Entry) : Prop where
  marks : row.marks? = some d.marks
  reason : d.reason = none
  closing : match phase with
    | .labelling _ _ _ => d.closing.isSome = true
    | _ => d.closing = none

/-- The row is done with: both of the last two calls have been tried, or else neither. -/
structure Docket.Settled (d : Docket) (row : Row Entry) : Prop where
  marks : row.marks? = some d.marks
  tried : d.closing.isSome = d.reason.isSome

/-- The rows that have been added, latest first, and what their dockets say. -/
def Docketed (dockets : List Docket) (c : Controller) (added : List (Row Entry)) : Prop :=
  match c.inHand? with
  | none => List.Forall₂ Docket.Settled dockets added
  | some id =>
      exists docket earlier row rest, dockets = docket :: earlier ∧ added = row :: rest ∧
        row.id = id ∧ docket.Pends c.phase row ∧ List.Forall₂ Docket.Settled earlier rest

section

variable {dockets : List Docket} {c next : Controller} {added : List (Row Entry)}

theorem docketed_free (h : Docketed dockets c added) (hBefore : c.inHand? = none)
    (hAfter : next.inHand? = none) : Docketed dockets next added := by
  unfold Docketed at h ⊢
  rw [hBefore] at h
  rw [hAfter]
  exact h

theorem docketed_held (h : Docketed dockets c added) (hHand : next.inHand? = c.inHand?)
    (hStage : forall d row, Docket.Pends c.phase d row -> Docket.Pends next.phase d row) :
    Docketed dockets next added := by
  unfold Docketed at h ⊢
  rw [hHand]
  cases hId : c.inHand? with
  | none =>
      rw [hId] at h
      exact h
  | some id =>
      rw [hId] at h
      rcases h with ⟨docket, earlier, row, rest, hDockets, hAdded, hRow, hPends, hSettled⟩
      exact ⟨docket, earlier, row, rest, hDockets, hAdded, hRow, hStage _ _ hPends, hSettled⟩

end

/-!
## Writing in the row
-/

section

variable {d : Docket} {row : Row Entry} {run : Run} {ending : Ending} {stop : Time.Instant}

theorem pends_closed {id : Int} (now later : Time.Instant) (done : Bool)
    (h : d.Pends (.closing run ending id stop) row) :
    Docket.Pends (.labelling run ending later) { d with closing := some done }
      (if done then Store.closed now row else row) := by
  refine ⟨?_, h.reason, rfl⟩
  cases done with
  | true => exact Store.marks?_closed now h.marks
  | false =>
      have hUnchanged : d.running = true := by simp [Docket.running, h.closing]
      rw [if_neg Bool.false_ne_true, h.marks, Docket.marks, hUnchanged]
      rfl

theorem settled_labelled (done : Bool) (h : d.Pends (.labelling run ending stop) row) :
    Docket.Settled { d with reason := some (ending, done) }
      (if done then Store.labelled ending.status row else row) := by
  refine ⟨?_, h.closing⟩
  cases done with
  | true => exact Store.marks?_labelled ending.status h.marks
  | false =>
      have hStatus : Docket.status { d with reason := some (ending, false) } = d.status := by
        simp only [Docket.status, h.reason]
        cases d.failure <;> rfl
      rw [if_neg Bool.false_ne_true, h.marks, Docket.marks, Docket.marks, hStatus]
      rfl

theorem pends_flagged {opening : Opening} {id : Int} {why : Fault} (active : Option Run)
    (h : d.Pends (.flagging opening id why) row) :
    Docket.Pends (.waiting active) { d with failure := some why }
      (Store.labelled (Controller.onFailureStatus why) row) := by
  refine ⟨?_, h.reason, h.closing⟩
  rw [Store.marks?_labelled _ h.marks]
  simp [Docket.marks, Docket.running, Docket.status, h.reason]

end

end Ozone

namespace Monitor

open Ozone (Controller Docket Docketed Entry Writing)
open Store (Row Sheet)
open Time (instantOf)

/-!
## Scenes
-/

/-- A request of the loop that fails leaves the rows of its table as they are. -/
def Scene.Spares (scene : Scene) : Prop :=
  forall answer, scene.reply? .ozone = some (.store answer) -> answer.isOk = false ->
    scene.after.outside.store.entrySheet = scene.before.outside.store.entrySheet

/-- What the call that is answered in the scene has come to, if it is one for a row. -/
def Scene.writing? (scene : Scene) : Option Writing :=
  match scene.before.ozone.state.phase, scene.reply? .ozone with
  | .recording _, some (.store (.entry outcome)) => if outcome.isOk then some .opened else none
  | .flagging _ _ why, some (.store (.entry outcome)) =>
      if outcome.isOk then some (.flagged why) else none
  | .closing _ _ _ _, some (.store (.entry outcome)) => some (.closed outcome.isOk)
  | .labelling _ ending _, some (.store (.entry outcome)) => some (.labelled ending outcome.isOk)
  | _, _ => none

/-- The dockets of the rows that the store has taken, latest first. -/
def dockets (past : List Scene) : List Docket :=
  (past.filterMap Scene.writing?).foldl Ozone.enter []

theorem dockets_none (past : List Scene) {scene : Scene} (h : scene.writing? = none) :
    dockets (past ++ [scene]) = dockets past := by
  simp [dockets, h]

theorem dockets_some (past : List Scene) {scene : Scene} {w : Writing}
    (h : scene.writing? = some w) : dockets (past ++ [scene]) = Ozone.enter (dockets past) w := by
  simp [dockets, h]

theorem writing?_none {scene : Scene}
    (h : forall outcome, scene.reply? .ozone ≠ some (.store (.entry outcome))) :
    scene.writing? = none := by
  unfold Scene.writing?
  split <;> first | rfl | exact absurd ‹_› (h _)

/-!
## The invariant
-/

structure Docketing (base : List (Row Entry)) (past : List Scene) (s : Monitor) : Prop where
  numbered : s.outside.store.entrySheet.Numbered
  rows : exists added, s.outside.store.entrySheet.rows = base ++ added.reverse ∧
    Docketed (dockets past) s.ozone.state added

section

variable {base : List (Row Entry)} {past : List Scene} {s : Monitor}

theorem docketing_kept {h : Happening} {next : Monitor} (hDocketing : Docketing base past s)
    (hSheet : next.outside.store.entrySheet = s.outside.store.entrySheet)
    (hWriting : (Scene.mk s h).writing? = none)
    (hKept : forall told added, Docketed told s.ozone.state added ->
      Docketed told next.ozone.state added) :
    Docketing base (past ++ [⟨s, h⟩]) next := by
  rcases hDocketing.rows with ⟨added, hRows, hDocketed⟩
  refine ⟨by rw [hSheet]; exact hDocketing.numbered, added, by rw [hSheet]; exact hRows, ?_⟩
  rw [dockets_none past hWriting]
  exact hKept _ _ hDocketed

section Move

variable {served next : Monitor} {event : Ozone.Event} {result : Controller × List Effect}

theorem reply?_ozone {reply : Reply}
    (hMoves : OzoneMoves s (.reply reply) result served next) :
    (Scene.mk s (.turn .ozone)).reply? .ozone = some reply := by
  simp [Scene.reply?, hMoves.scene]

theorem writing?_event (hMoves : OzoneMoves s event result served next)
    (hEvent : forall outcome, event ≠ .reply (.store (.entry outcome))) :
    (Scene.mk s (.turn .ozone)).writing? = none := by
  apply writing?_none
  intro outcome hReply
  rw [Scene.reply?, hMoves.scene] at hReply
  cases event with
  | reply reply =>
      cases Option.some.inj hReply
      exact hEvent outcome rfl
  | _ => cases hReply

theorem sheet_event (hOrder : InOrder s) (hNumbered : s.outside.store.entrySheet.Numbered)
    (hMoves : OzoneMoves s event result served next)
    (hEvent : forall outcome, event ≠ .reply (.store (.entry outcome))) :
    next.outside.store.entrySheet = s.outside.store.entrySheet := by
  rw [ozoneMoves_outside hMoves]
  by_cases hStore : exists answer, event = .reply (.store answer)
  · rcases hStore with ⟨answer, rfl⟩
    have hChanges := changes_serves hOrder hNumbered hMoves.serves
    cases hMoves.move with
    | loaded outcome hPhase =>
        generalize served.outside.store.entrySheet = after at hChanges
        cases hChanges with
        | same => rfl
        | opened hOther hId =>
            rw [hPhase] at hOther
            cases hOther
        | amended hHand hId =>
            rw [Controller.inHand?, hPhase] at hHand
            cases hHand
    | closed outcome hPhase => exact absurd rfl (hEvent outcome)
    | labelled outcome hPhase => exact absurd rfl (hEvent outcome)
    | recorded outcome hPhase => exact absurd rfl (hEvent outcome)
    | flagged outcome hPhase => exact absurd rfl (hEvent outcome)
  · have hSame := ozoneServes_unstored hMoves.serves fun answer hAnswer =>
      hStore ⟨answer, hAnswer⟩
    rw [hSame]

/-- A request for a row that comes through is answered by the store, and one that fails is not. -/
theorem sheet_outcome {outcome : Except Fault Entry} {request : Store.Request}
    (hOrder : InOrder s)
    (hMoves : OzoneMoves s (.reply (.store (.entry outcome))) result served next)
    (hSpared : outcome.isOk = false ->
      next.outside.store.entrySheet = s.outside.store.entrySheet)
    (hCall : s.ozone.state.call? = some (.store request)) :
    (outcome.isOk = true ∧
        .entry outcome = (s.outside.store.answer (instantOf s.now) request).1 ∧
        next.outside.store.entrySheet =
          (s.outside.store.answer (instantOf s.now) request).2.entrySheet) ∨
      (outcome.isOk = false ∧ next.outside.store.entrySheet = s.outside.store.entrySheet) := by
  cases hOk : outcome.isOk with
  | true =>
      have hStored := ozoneServes_stored hOrder hMoves.serves hCall hOk
      exact Or.inl ⟨rfl, hStored.1, by rw [ozoneMoves_outside hMoves, hStored.2]⟩
  | false => exact Or.inr ⟨rfl, hSpared hOk⟩

/-- The row of a run that begins is the last one, and its docket is still empty. -/
theorem docketing_opened {opening : Ozone.Opening} {outcome : Except Fault Entry}
    (hOrder : InOrder s) (hDocketing : Docketing base past s)
    (hMoves : OzoneMoves s (.reply (.store (.entry outcome))) result served next)
    (hSpared : outcome.isOk = false ->
      next.outside.store.entrySheet = s.outside.store.entrySheet)
    (hPhase : s.ozone.state.phase = .recording opening)
    (hResult : result.1.phase = .switchingOn opening (outcome.toOption.map Entry.id)) :
    Docketing base (past ++ [⟨s, .turn .ozone⟩]) next := by
  have hCall : s.ozone.state.call? =
      some (.store (.startEntry opening.start opening.minutes)) := by
    simp [Controller.call?, hPhase]
  have hFree : s.ozone.state.inHand? = none := by simp [Controller.inHand?, hPhase]
  have hWriting : (Scene.mk s (.turn .ozone)).writing? =
      if outcome.isOk then some .opened else none := by
    simp [Scene.writing?, hPhase, reply?_ozone hMoves]
  have hHand : next.ozone.state.inHand? = outcome.toOption.map Entry.id := by
    simp [Controller.inHand?, hMoves.ozone, hResult]
  rcases sheet_outcome hOrder hMoves hSpared hCall with ⟨hOk, hAnswer, hSheet⟩ | ⟨hFailed, hSheet⟩
  · rcases hDocketing.rows with ⟨added, hRows, hDocketed⟩
    rcases Store.answer_startEntry s.outside.store (instantOf s.now) opening.start
      opening.minutes with ⟨row, hId, _, hGiven, hPushed⟩
    have hMarks := Store.marks?_started hPushed
    have hEntry := Store.Answer.entry.inj (hAnswer.trans hGiven)
    rw [hOk, if_pos rfl] at hWriting
    constructor
    · rw [hSheet, hPushed]
      exact Sheet.push_numbered hDocketing.numbered hId
    · refine ⟨row :: added, ?_, ?_⟩
      · rw [hSheet, hPushed, Sheet.push, hRows]
        simp
      · rw [dockets_some past hWriting]
        unfold Docketed at hDocketed ⊢
        rw [hFree] at hDocketed
        rw [hHand, hEntry, hMoves.ozone, hResult]
        exact ⟨{}, dockets past, row, added, rfl, rfl, hId, ⟨hMarks, rfl, rfl⟩, hDocketed⟩
  · rw [hFailed, if_neg Bool.false_ne_true] at hWriting
    apply docketing_kept hDocketing hSheet hWriting
    intro told added hDocketed
    refine Ozone.docketed_free hDocketed hFree ?_
    cases outcome with
    | ok entry => cases hFailed
    | error fault => exact hHand

/--
The row in the hands of the loop, which is the last one, is changed if the request comes through.
What the docket says of the outcome is said of the row as it is then.
-/
theorem docketing_written {id : Int} {outcome : Except Fault Entry} {request : Store.Request}
    {change : Row Entry -> Row Entry} (hOrder : InOrder s) (hDocketing : Docketing base past s)
    (hMoves : OzoneMoves s (.reply (.store (.entry outcome))) result served next)
    (hSpared : outcome.isOk = false ->
      next.outside.store.entrySheet = s.outside.store.entrySheet)
    (hHand : s.ozone.state.inHand? = some id) (hCall : s.ozone.state.call? = some (.store request))
    (hAnswer : (s.outside.store.answer (instantOf s.now) request).2.entrySheet =
      s.outside.store.entrySheet.amend id change)
    (hId : forall row, (change row).id = row.id)
    (hNext : forall docket earlier row written rest, dockets past = docket :: earlier ->
      docket.Pends s.ozone.state.phase row -> List.Forall₂ Docket.Settled earlier rest ->
      written = (if outcome.isOk then change row else row) -> written.id = id ->
      Docketed (dockets (past ++ [⟨s, .turn .ozone⟩])) next.ozone.state (written :: rest)) :
    Docketing base (past ++ [⟨s, .turn .ozone⟩]) next := by
  rcases hDocketing.rows with ⟨added, hRows, hDocketed⟩
  unfold Docketed at hDocketed
  rw [hHand] at hDocketed
  rcases hDocketed with ⟨docket, earlier, row, rest, hTold, rfl, rfl, hPends, hSettled⟩
  have hAfter := fun written => hNext docket earlier row written rest hTold hPends hSettled
  rcases sheet_outcome hOrder hMoves hSpared hCall with ⟨hOk, _, hSheet⟩ | ⟨hFailed, hSheet⟩
  · have hLast : s.outside.store.entrySheet.rows = (base ++ rest.reverse) ++ [row] := by
      simp [hRows]
    constructor
    · rw [hSheet, hAnswer]
      exact Sheet.amend_numbered hDocketing.numbered _ hId
    · refine ⟨change row :: rest, ?_, hAfter _ (by rw [if_pos hOk]) (hId row)⟩
      rw [hSheet, hAnswer, Sheet.amend_last change hDocketing.numbered hLast]
      simp
  · refine ⟨hSheet ▸ hDocketing.numbered, row :: rest, hSheet ▸ hRows, hAfter _ ?_ rfl⟩
    rw [hFailed, if_neg Bool.false_ne_true]

theorem docketing_closed {run : Ozone.Run} {ending : Ozone.Ending} {id : Int}
    {stop later : Time.Instant} {outcome : Except Fault Entry} (hOrder : InOrder s)
    (hDocketing : Docketing base past s)
    (hMoves : OzoneMoves s (.reply (.store (.entry outcome))) result served next)
    (hSpared : outcome.isOk = false ->
      next.outside.store.entrySheet = s.outside.store.entrySheet)
    (hPhase : s.ozone.state.phase = .closing run ending id stop)
    (hResult : result.1.phase = .labelling run ending later) :
    Docketing base (past ++ [⟨s, .turn .ozone⟩]) next := by
  have hRun : run.id = some id := by
    have hFiled := hOrder.ozone.filed
    rwa [Controller.Filed, hPhase] at hFiled
  have hCall : s.ozone.state.call? = some (.store (.stopEntry id)) := by
    simp [Controller.call?, hPhase]
  have hHand : s.ozone.state.inHand? = some id := by simp [Controller.inHand?, hPhase, hRun]
  have hWriting : (Scene.mk s (.turn .ozone)).writing? = some (.closed outcome.isOk) := by
    simp [Scene.writing?, hPhase, reply?_ozone hMoves]
  have hAnswer := (Store.answer_stopEntry (instantOf s.now) id hDocketing.numbered).2
  apply docketing_written hOrder hDocketing hMoves hSpared hHand hCall hAnswer (Store.id_closed _)
  intro docket earlier row written rest hTold hPends hSettled hWritten hId
  rw [hPhase] at hPends
  rw [dockets_some past hWriting, hTold, hMoves.ozone, hWritten]
  rw [hWritten] at hId
  unfold Docketed
  rw [Controller.inHand?, hResult]
  dsimp only
  rw [hRun]
  exact ⟨_, earlier, _, rest, rfl, rfl, hId, Ozone.pends_closed _ later outcome.isOk hPends,
    hSettled⟩

theorem docketing_labelled {run : Ozone.Run} {ending : Ozone.Ending} {stop : Time.Instant}
    {outcome : Except Fault Entry} (hOrder : InOrder s) (hDocketing : Docketing base past s)
    (hMoves : OzoneMoves s (.reply (.store (.entry outcome)))
      (s.ozone.state.retired s.now run ending stop) served next)
    (hSpared : outcome.isOk = false ->
      next.outside.store.entrySheet = s.outside.store.entrySheet)
    (hPhase : s.ozone.state.phase = .labelling run ending stop) :
    Docketing base (past ++ [⟨s, .turn .ozone⟩]) next := by
  have hFiled := hOrder.ozone.filed
  rw [Controller.Filed, hPhase] at hFiled
  rcases Option.isSome_iff_exists.mp hFiled with ⟨id, hRun⟩
  have hCall : s.ozone.state.call? = some (.store (.setStatus id ending.status)) := by
    simp [Controller.call?, hPhase, hRun]
  have hHand : s.ozone.state.inHand? = some id := by simp [Controller.inHand?, hPhase, hRun]
  have hWriting : (Scene.mk s (.turn .ozone)).writing? =
      some (.labelled ending outcome.isOk) := by
    simp [Scene.writing?, hPhase, reply?_ozone hMoves]
  have hAnswer :=
    (Store.answer_setStatus (instantOf s.now) id ending.status hDocketing.numbered).2
  apply docketing_written hOrder hDocketing hMoves hSpared hHand hCall hAnswer
    (Store.id_labelled _)
  intro docket earlier row written rest hTold hPends hSettled hWritten _
  rw [hPhase] at hPends
  rw [dockets_some past hWriting, hTold, hMoves.ozone, hWritten]
  unfold Docketed
  dsimp only
  rw [Ozone.retired_inHand]
  exact List.Forall₂.cons (Ozone.settled_labelled outcome.isOk hPends) hSettled

theorem docketing_flagged {opening : Ozone.Opening} {id : Int} {why : Fault}
    {outcome : Except Fault Entry} (hOrder : InOrder s) (hDocketing : Docketing base past s)
    (hMoves : OzoneMoves s (.reply (.store (.entry outcome)))
      (Controller.beganWithout s.now opening (some id) why) served next)
    (hSpared : outcome.isOk = false ->
      next.outside.store.entrySheet = s.outside.store.entrySheet)
    (hPhase : s.ozone.state.phase = .flagging opening id why) :
    Docketing base (past ++ [⟨s, .turn .ozone⟩]) next := by
  have hCall : s.ozone.state.call? =
      some (.store (.setStatus id (Controller.onFailureStatus why))) := by
    simp [Controller.call?, hPhase]
  have hHand : s.ozone.state.inHand? = some id := by simp [Controller.inHand?, hPhase]
  have hWriting : (Scene.mk s (.turn .ozone)).writing? =
      if outcome.isOk then some (.flagged why) else none := by
    simp [Scene.writing?, hPhase, reply?_ozone hMoves]
  have hAnswer := (Store.answer_setStatus (instantOf s.now) id (Controller.onFailureStatus why)
    hDocketing.numbered).2
  apply docketing_written hOrder hDocketing hMoves hSpared hHand hCall hAnswer
    (Store.id_labelled _)
  intro docket earlier row written rest hTold hPends hSettled hWritten hId
  rw [hPhase] at hPends
  rw [hMoves.ozone]
  cases hOk : outcome.isOk with
  | true =>
      rw [hOk, if_pos rfl] at hWriting hWritten
      rw [dockets_some past hWriting, hTold]
      subst hWritten
      exact ⟨_, earlier, _, rest, rfl, rfl, hId, Ozone.pends_flagged _ hPends, hSettled⟩
  | false =>
      rw [hOk, if_neg Bool.false_ne_true] at hWriting hWritten
      rw [dockets_none past hWriting, hTold]
      subst hWritten
      exact ⟨docket, earlier, _, rest, rfl, rfl, hId, ⟨hPends.marks, hPends.reason,
        hPends.closing⟩, hSettled⟩

theorem docketed_quiet {told : List Docket} {added : List (Row Entry)}
    (hMove : Controller.Move s.now s.ozone.state event result)
    (hEvent : forall outcome, event ≠ .reply (.store (.entry outcome)))
    (h : Docketed told s.ozone.state added) : Docketed told result.1 added := by
  have hPending {run : Ozone.Run} (hPhase : s.ozone.state.phase = .waiting (some run))
      (ending : Ozone.Ending) : Docketed told (s.ozone.state.retire run ending).1 added := by
    apply Ozone.docketed_held h
    · simp [Controller.inHand?, Controller.retire, hPhase]
    · intro docket row hPends
      rw [hPhase] at hPends
      exact ⟨hPends.marks, hPends.reason, hPends.closing⟩
  cases hMove with
  | loaded outcome hPhase => exact Ozone.docketed_free h (by simp [Controller.inHand?, hPhase]) rfl
  | secured outcome hPhase => exact Ozone.docketed_free h (by simp [Controller.inHand?, hPhase]) rfl
  | finished hPhase => exact Ozone.docketed_free h (by simp [Controller.inHand?, hPhase]) rfl
  | spared ticket hPhase => exact h
  | opened minutes ticket hPhase =>
      exact Ozone.docketed_free h (by simp [Controller.inHand?, hPhase]) rfl
  | shutDown hPhase => exact hPending hPhase .shutdown
  | expired hPhase hDue => exact hPending hPhase .expired
  | stopped ticket hPhase => exact hPending hPhase (.manual ticket)
  | replaced minutes ticket hPhase => exact hPending hPhase (.replaced minutes ticket)
  | unfiled outcome hPhase hRow =>
      exact Ozone.docketed_free h (by simp [Controller.inHand?, hPhase, hRow])
        (Ozone.retired_inHand ..)
  | switchedOff outcome hPhase hRow =>
      apply Ozone.docketed_held h (by simp [Controller.inHand?, hPhase])
      intro docket row hPends
      rw [hPhase] at hPends
      exact ⟨hPends.marks, hPends.reason, hPends.closing⟩
  | switchedOn hPhase =>
      apply Ozone.docketed_held h (by simp [Controller.inHand?, Controller.began, hPhase])
      intro docket row hPends
      rw [hPhase] at hPends
      exact ⟨hPends.marks, hPends.reason, hPends.closing⟩
  | failedOn fault hPhase =>
      apply Ozone.docketed_held h (by simp [Controller.inHand?, hPhase])
      intro docket row hPends
      rw [hPhase] at hPends
      exact ⟨hPends.marks, hPends.reason, hPends.closing⟩
  | failedUnfiled fault hPhase =>
      exact Ozone.docketed_free h (by simp [Controller.inHand?, hPhase]) rfl
  | closed outcome hPhase => exact absurd rfl (hEvent outcome)
  | labelled outcome hPhase => exact absurd rfl (hEvent outcome)
  | recorded outcome hPhase => exact absurd rfl (hEvent outcome)
  | flagged outcome hPhase => exact absurd rfl (hEvent outcome)

theorem docketing_move (hOrder : InOrder s) (hDocketing : Docketing base past s)
    (hMoves : OzoneMoves s event result served next)
    (hSpares : forall answer, event = .reply (.store answer) -> answer.isOk = false ->
      next.outside.store.entrySheet = s.outside.store.entrySheet) :
    Docketing base (past ++ [⟨s, .turn .ozone⟩]) next := by
  by_cases hEntry : exists outcome, event = .reply (.store (.entry outcome))
  · rcases hEntry with ⟨outcome, rfl⟩
    have hSpared := hSpares (.entry outcome) rfl
    have hMove := hMoves.move
    cases hMove with
    | closed _ hPhase => exact docketing_closed hOrder hDocketing hMoves hSpared hPhase rfl
    | labelled _ hPhase => exact docketing_labelled hOrder hDocketing hMoves hSpared hPhase
    | recorded _ hPhase => exact docketing_opened hOrder hDocketing hMoves hSpared hPhase rfl
    | flagged _ hPhase => exact docketing_flagged hOrder hDocketing hMoves hSpared hPhase
  · have hEvent (outcome : Except Fault Entry) : event ≠ .reply (.store (.entry outcome)) :=
      fun hSame => hEntry ⟨outcome, hSame⟩
    apply docketing_kept hDocketing (sheet_event hOrder hDocketing.numbered hMoves hEvent)
      (writing?_event hMoves hEvent)
    intro told added hDocketed
    rw [hMoves.ozone]
    exact docketed_quiet hMoves.move hEvent hDocketed

end Move

theorem docketing_happen (hOrder : InOrder s) (hDocketing : Docketing base past s)
    (h : Happening) (hUndisturbed : (Scene.mk s h).Undisturbed .ozone)
    (hSpares : (Scene.mk s h).Spares) :
    Docketing base (past ++ [⟨s, h⟩]) (s.happen h) := by
  have hQuiet (hEvent : (Scene.mk s h).ozoneEvent? = none) : (Scene.mk s h).writing? = none := by
    apply writing?_none
    simp [Scene.reply?, hEvent]
  have hSame := entries_apart hOrder hUndisturbed
  rw [Scene.Spares, Scene.after] at hSpares
  generalize hNext : s.happen h = next at hSpares hSame
  have hHappens : OzoneHappens s h next := hNext ▸ ozone_happens hOrder h
  cases hHappens with
  | apart hApart =>
      apply docketing_kept hDocketing (hSame hApart.event) (hQuiet hApart.event)
      intro told added hDocketed
      rwa [hApart.ozone]
  | start hFresh =>
      apply docketing_kept hDocketing (by rw [start_outside hFresh]) (hQuiet rfl)
      intro told added hDocketed
      rw [start_ozone_state hFresh]
      apply Ozone.docketed_free hDocketed ?_ rfl
      rw [Controller.inHand?, ozone_unbegun hOrder hFresh]
  | join hCancelled hOver =>
      exact docketing_kept hDocketing rfl (hQuiet rfl) fun told added hDocketed => hDocketed
  | move hMoves =>
      apply docketing_move hOrder hDocketing hMoves
      rintro answer rfl hFailed
      exact hSpares answer (reply?_ozone hMoves) hFailed

end

theorem docketing_after (config : Config) (now : Nat) (outside : Outside)
    (sink : Option Notice.Sink) (hs : List Happening)
    (hNumbered : outside.store.entrySheet.Numbered)
    (hLeft : forall scene, scene ∈ (assemble config now outside sink).scenes hs ->
      scene.Undisturbed .ozone ∧ scene.Spares) :
    Docketing outside.store.entrySheet.rows ((assemble config now outside sink).scenes hs)
      ((assemble config now outside sink).after hs) := by
  refine scenes_invariant (inOrder_assemble config now outside sink)
    (fun scene => scene.Undisturbed .ozone ∧ scene.Spares)
    (Docketing outside.store.entrySheet.rows)
    ⟨hNumbered, [], (List.append_nil _).symm, List.Forall₂.nil⟩ ?_ hs hLeft
  intro past before h hOrder hAllowed hDocketing
  exact docketing_happen hOrder hDocketing h hAllowed.1 hAllowed.2

end Monitor
end TubMonitor
