import TubMonitor.Proofs.Leak.Intervals
import TubMonitor.Proofs.Store.Numbering

/-!
# Edges that the store has taken

Whatever has failed before: once the calls of the last edge have come through, the latest
record is open if the tub leaks and is not open if it does not.
-/

namespace TubMonitor

namespace Leak

/-- The latest record is one of a leak that is still there. -/
def LastOpen (t : Store.Sheet Record) : Prop :=
  exists record, t.latest = .ok (some record) ∧ record.isOpen = true

/-- The table and the panel, as they are while a leak is there and while there is none. -/
structure Mended (level : Bool) (latest : Option Record) (t : Store.Sheet Record) : Prop where
  table : LastOpen t ↔ level = true
  panel : level = true -> t.latest = .ok latest

theorem lastOpen_some {t : Store.Sheet Record} {record : Record}
    (h : t.latest = .ok (some record)) : LastOpen t ↔ record.isOpen = true := by
  constructor
  · rintro ⟨other, hOther, hOpen⟩
    rw [h] at hOther
    cases hOther
    exact hOpen
  · intro hOpen
    exact ⟨record, h, hOpen⟩

theorem mended_dry {t : Store.Sheet Record} (latest : Option Record) (h : ¬ LastOpen t) :
    Mended false latest t :=
  ⟨iff_of_false h Bool.false_ne_true, fun hWet => absurd hWet Bool.false_ne_true⟩

theorem mended_wet {t : Store.Sheet Record} {record : Record}
    (h : t.latest = .ok (some record)) (hOpen : record.isOpen = true) :
    Mended true (some record) t :=
  ⟨iff_of_true ((lastOpen_some h).mpr hOpen) rfl, fun _ => h⟩

end Leak

namespace Monitor

open Leak (LastOpen Mended Record Watch)
open Store (Sheet)
open Time (instantOf)

/-!
## The last edge
-/

def Scene.levelAfter (level : Bool) (scene : Scene) : Bool :=
  match scene.reading? with
  | some (_, outcome) => outcome.toOption.getD level
  | none => level

/-- Looking back: the level and, once it has changed, the scenes from its last change on. -/
def Scene.lookBack (scene : Scene) (before : Bool × List Scene) : Bool × List Scene :=
  let level := scene.levelAfter before.1
  if level = before.1 then
    (level, if before.2.isEmpty then [] else before.2 ++ [scene])
  else
    (level, [scene])

theorem lookBack_same {before : Bool × List Scene} {scene : Scene}
    (h : scene.levelAfter before.1 = before.1) :
    scene.lookBack before =
      (before.1, if before.2.isEmpty then [] else before.2 ++ [scene]) := by
  simp [Scene.lookBack, h]

theorem lookBack_edge {before : Bool × List Scene} {scene : Scene}
    (h : scene.levelAfter before.1 ≠ before.1) :
    scene.lookBack before = (scene.levelAfter before.1, [scene]) := by
  simp [Scene.lookBack, h]

def sinceEdge (past : List Scene) : List Scene :=
  (past.foldl (fun before scene => scene.lookBack before) (false, [])).2

theorem history_levelAfter (past : List Scene) (scene : Scene) :
    (history (past ++ [scene])).level = scene.levelAfter (history past).level := by
  rw [history_concat]
  unfold Scene.levelAfter Scene.reading?
  cases hSensed : scene.sensed? with
  | none => rfl
  | some answer => cases answer <;> rfl

theorem lookBack_level (past : List Scene) :
    (past.foldl (fun before scene => scene.lookBack before) (false, [])).1 =
      (history past).level := by
  induction past using List.reverseRecOn with
  | nil => rfl
  | append_singleton past scene ih =>
      rw [List.foldl_append, List.foldl_cons, List.foldl_nil, history_levelAfter, ← ih]
      by_cases hSame : scene.levelAfter (history past).level = (history past).level
      · rw [← ih] at hSame
        rw [lookBack_same hSame, hSame]
      · rw [← ih] at hSame
        rw [lookBack_edge hSame]

theorem sinceEdge_same {past : List Scene} {scene : Scene}
    (h : scene.levelAfter (history past).level = (history past).level) :
    sinceEdge (past ++ [scene]) =
      if (sinceEdge past).isEmpty then [] else sinceEdge past ++ [scene] := by
  rw [← lookBack_level] at h
  unfold sinceEdge
  rw [List.foldl_append, List.foldl_cons, List.foldl_nil, lookBack_same h]

theorem sinceEdge_edge {past : List Scene} {scene : Scene}
    (h : scene.levelAfter (history past).level ≠ (history past).level) :
    sinceEdge (past ++ [scene]) = [scene] := by
  rw [← lookBack_level] at h
  unfold sinceEdge
  rw [List.foldl_append, List.foldl_cons, List.foldl_nil, lookBack_edge h]

def AllStored (dealt : List Scene) : Prop :=
  forall scene, scene ∈ dealt -> scene.Stored .leak

/-- A scene without an edge is one more in which the last edge may be dealt with. -/
structure Longer (dealt : List Scene) (scene : Scene) (longer : List Scene) : Prop where
  stored : AllStored longer -> AllStored dealt
  scene : dealt ≠ [] -> AllStored longer -> scene.Stored .leak
  some : dealt ≠ [] -> longer ≠ []

theorem sinceEdge_longer {past : List Scene} {scene : Scene}
    (h : scene.levelAfter (history past).level = (history past).level) :
    Longer (sinceEdge past) scene (sinceEdge (past ++ [scene])) := by
  rw [sinceEdge_same h]
  cases hDealt : sinceEdge past with
  | nil => exact ⟨id, fun hSome => absurd rfl hSome, id⟩
  | cons first rest =>
      refine ⟨?_, ?_, ?_⟩
      · intro hStored other hMem
        exact hStored other (List.mem_append_left _ hMem)
      · intro _ hStored
        exact hStored scene (List.mem_append_right _ (List.mem_singleton_self _))
      · intro _
        exact List.append_ne_nil_of_right_ne_nil _ (List.cons_ne_nil _ _)

/-!
## What is right once the calls have come through
-/

/-- Phase by phase, with the scenes `dealt` since the last edge and the call under way. -/
def Mends (dealt : List Scene) (level : Bool) (now : Nat) (w : Watch) (call? : Option Call)
    (t : Sheet Record) : Prop :=
  match w.phase with
  | .dormant | .loading | .seeding => level = false ∧ w.previous = false ∧ ¬ LastOpen t
  | .waiting | .polling =>
      w.previous = level ∧ w.present = level ∧ (AllStored dealt -> Mended level w.latest t)
  | .halting =>
      level = true ∧ w.present = true ∧
        ((w.previous = true ∧ (AllStored dealt -> Mended true w.latest t)) ∨
          (w.previous = false ∧ dealt ≠ []))
  | .recording =>
      level = true ∧ w.present = true ∧ dealt ≠ [] ∧
        exists called, called ≤ now ∧ call? = some (.store (.createRecord (instantOf called)))
  | .recalling => level = false ∧ w.present = false ∧ dealt ≠ []
  | .closing =>
      level = false ∧ w.present = false ∧ dealt ≠ [] ∧
        exists record, call? = some (.store (.clearRecord record.id)) ∧
          t.latest = .ok (some record)
  | .ended | .failed => AllStored dealt -> (LastOpen t ↔ level = true)

section Mends

variable {dealt : List Scene} {level : Bool} {now : Nat} {w : Watch} {call? : Option Call}
  {t : Sheet Record}

theorem mends_longer {longer : List Scene} {scene : Scene} {later : Nat}
    (h : Mends dealt level now w call? t) (hLonger : Longer dealt scene longer)
    (hLater : now ≤ later) : Mends longer level later w call? t := by
  unfold Mends at h ⊢
  cases hPhase : w.phase with
  | dormant | loading | seeding =>
      rw [hPhase] at h
      exact h
  | waiting | polling =>
      rw [hPhase] at h
      exact ⟨h.1, h.2.1, fun hStored => h.2.2 (hLonger.stored hStored)⟩
  | halting =>
      rw [hPhase] at h
      rcases h with ⟨hWet, hPresent, ⟨hOld, hMended⟩ | ⟨hNew, hSome⟩⟩
      · exact ⟨hWet, hPresent, Or.inl ⟨hOld, fun hStored => hMended (hLonger.stored hStored)⟩⟩
      · exact ⟨hWet, hPresent, Or.inr ⟨hNew, hLonger.some hSome⟩⟩
  | recording =>
      rw [hPhase] at h
      rcases h with ⟨hWet, hPresent, hSome, called, hCalled, hCall⟩
      exact ⟨hWet, hPresent, hLonger.some hSome, called, hCalled.trans hLater, hCall⟩
  | recalling =>
      rw [hPhase] at h
      exact ⟨h.1, h.2.1, hLonger.some h.2.2⟩
  | closing =>
      rw [hPhase] at h
      exact ⟨h.1, h.2.1, hLonger.some h.2.2.1, h.2.2.2⟩
  | ended | failed =>
      rw [hPhase] at h
      exact fun hStored => h (hLonger.stored hStored)

theorem mends_settle (moment : Nat) (hPresent : w.present = level)
    (hMended : AllStored dealt -> Mended level w.latest t) :
    Mends dealt level now (w.settle moment).1 call? t := by
  rcases Leak.settle_cases w moment with ⟨_, hPrevious, hShown, hKept, hPhase | hPhase⟩
  · unfold Mends
    rw [hPhase, hPrevious, hShown, hKept]
    exact ⟨hPresent, hPresent, hMended⟩
  · unfold Mends
    rw [hPhase]
    exact fun hStored => (hMended hStored).table

theorem mends_observe_same (hPrevious : w.previous = level)
    (hMended : AllStored dealt -> Mended level w.latest t) :
    Mends dealt level now (w.observe now level).1 (callsOf (w.observe now level).2).getLast? t := by
  cases level with
  | true => exact ⟨rfl, rfl, Or.inl ⟨hPrevious, hMended⟩⟩
  | false =>
      have hSettle : w.observe now false = ({ w with present := false } : Watch).settle now := by
        show ({ w with present := false } : Watch).follow now = _
        rw [Watch.follow, hPrevious]
      rw [hSettle]
      exact mends_settle now rfl hMended

theorem mends_observe_edge (hPrevious : w.previous ≠ level) (hSome : dealt ≠ []) :
    Mends dealt level now (w.observe now level).1 (callsOf (w.observe now level).2).getLast? t := by
  cases level with
  | true =>
      have hDry : w.previous = false := by simpa using hPrevious
      exact ⟨rfl, rfl, Or.inr ⟨hDry, hSome⟩⟩
  | false =>
      have hRecall : w.observe now false =
          ({ w with phase := .recalling, present := false }, [.call (.store .latestRecord)]) := by
        show ({ w with present := false } : Watch).follow now = _
        rw [Watch.follow, show w.previous = true by simpa using hPrevious]
      rw [hRecall]
      exact ⟨rfl, rfl, hSome⟩

theorem mends_halted (outcome : Except Fault Unit) (h : Mends dealt level now w call? t)
    (hPhase : w.phase = .halting) :
    let result := Watch.after (Watch.pumpWarning outcome) (w.follow now)
    Mends dealt level now result.1 (callsOf result.2).getLast? t := by
  unfold Mends at h
  rw [hPhase] at h
  rcases h with ⟨hWet, hPresent, ⟨hOld, hMended⟩ | ⟨hNew, hSome⟩⟩
  · have hFollow : w.follow now = w.settle now := by
      rw [Watch.follow, hOld, hPresent]
    dsimp only
    rw [hFollow, hWet]
    exact mends_settle now hPresent hMended
  · have hFollow : w.follow now =
        ({ w with phase := .recording }, [.call (.store (.createRecord (instantOf now)))]) := by
      rw [Watch.follow, hNew, hPresent]
    dsimp only
    rw [hFollow, Watch.after]
    exact ⟨hWet, hPresent, hSome, now, le_rfl, by simp⟩

theorem mends_recalled (outcome : Except Fault (Option Record))
    (h : Mends dealt level now w call? t) (hPhase : w.phase = .recalling)
    (hLooked : outcome.isOk = true -> outcome = t.latest)
    (hStored : AllStored dealt -> outcome.isOk = true) :
    let result := w.step now (.reply (.store (.latestRecord outcome)))
    Mends dealt level now result.1 (callsOf result.2).getLast? t := by
  unfold Mends at h
  rw [hPhase] at h
  rcases h with ⟨hDry, hPresent, hSome⟩
  subst hDry
  dsimp only
  have hSettled (hNone : outcome.isOk = true -> ¬ LastOpen t) :
      Mends dealt false now (w.settle now).1 (callsOf (w.settle now).2).getLast? t :=
    mends_settle now hPresent fun hAll => Leak.mended_dry w.latest (hNone (hStored hAll))
  rcases outcome with fault | (_ | record)
  · rw [show w.step now _ = w.settle now by simp [Watch.step, hPhase]]
    exact hSettled fun hOk => by cases hOk
  · rw [show w.step now _ = w.settle now by simp [Watch.step, hPhase]]
    apply hSettled
    rintro hOk ⟨record, hLatest, _⟩
    have hNothing := hLooked hOk
    rw [hLatest] at hNothing
    cases hNothing
  · have hLatest := (hLooked rfl).symm
    cases hOpen : record.isOpen with
    | true =>
        have hClosing : w.step now (.reply (.store (.latestRecord (.ok (some record))))) =
            ({ w with phase := .closing }, [.call (.store (.clearRecord record.id))]) := by
          simp [Watch.step, hPhase, hOpen]
        rw [hClosing]
        exact ⟨rfl, hPresent, hSome, record, rfl, hLatest⟩
    | false =>
        rw [show w.step now _ = w.settle now by simp [Watch.step, hPhase, hOpen]]
        apply hSettled
        intro _ hLast
        rw [Leak.lastOpen_some hLatest, hOpen] at hLast
        cases hLast

end Mends

/-!
## Every happening
-/

theorem records_happen {s : Monitor} {h : Happening} (hOrder : InOrder s)
    (hUndisturbed : (Scene.mk s h).Undisturbed .leak)
    (hNumbered : s.outside.store.recordSheet.Numbered) :
    (s.happen h).outside.store.recordSheet.Numbered := by
  generalize hNext : s.happen h = next
  have hHappens : LeakHappens s h next := hNext ▸ leak_happens hOrder h
  cases hHappens with
  | apart hApart =>
      rw [Store.recordSheet_only (hApart.rows hUndisturbed)]
      exact hNumbered
  | start hFresh =>
      rw [start_outside hFresh]
      exact hNumbered
  | move hMoves =>
      rw [hMoves.outside]
      cases hMoves.serves with
      | @reply pending hPending hDue =>
          rcases answer_store_cases s.outside s.now pending.call with
            hStore | ⟨request, _, _, hStore⟩
          · dsimp only
            rw [hStore]
            exact hNumbered
          · dsimp only
            rw [hStore]
            exact Store.answer_records_numbered _ request hNumbered
      | _ => exact hNumbered
  | join hCancelled hOver => exact hNumbered

def Mending (past : List Scene) (s : Monitor) : Prop :=
  Mends (sinceEdge past) (history past).level s.now s.leak.state
    (s.leak.pending.map Pending.call) s.outside.store.recordSheet

section

variable {past : List Scene} {s : Monitor}

theorem levelAfter_unsensed {scene : Scene} (level : Bool) (h : scene.sensed? = none) :
    scene.levelAfter level = level := by
  simp [Scene.levelAfter, Scene.reading?, h]

theorem mending_apart {h : Happening} {next : Monitor} (hMending : Mending past s)
    (hApart : LeakApart s h next) (hUndisturbed : (Scene.mk s h).Undisturbed .leak) :
    Mending (past ++ [⟨s, h⟩]) next := by
  have hSensed : (Scene.mk s h).sensed? = none := by
    simp [Scene.sensed?, Scene.reply?, hApart.event]
  have hSame := levelAfter_unsensed (history past).level hSensed
  unfold Mending
  rw [history_levelAfter, hSame, hApart.leak, Store.recordSheet_only (hApart.rows hUndisturbed)]
  exact mends_longer hMending (sinceEdge_longer hSame) hApart.now

theorem mending_start (hOrder : InOrder s) (hMending : Mending past s)
    (hFresh : s.isFresh = true) : Mending (past ++ [⟨s, .start⟩]) s.start.2 := by
  have hDormant : s.leak.state.phase = .dormant := leak_unbegun hOrder hFresh
  have hSensed : (Scene.mk s .start).sensed? = none := rfl
  have hSame := levelAfter_unsensed (history past).level hSensed
  unfold Mending Mends at hMending ⊢
  rw [hDormant] at hMending
  rw [history_levelAfter, hSame, start_outside hFresh, start_leak_state hFresh]
  exact ⟨hMending.1, rfl, hMending.2.2⟩

theorem mending_join (hOrder : InOrder s) (hMending : Mending past s) (hOver : s.isOver = true) :
    Mending (past ++ [⟨s, .join⟩]) s.join := by
  have hSensed : (Scene.mk s .join).sensed? = none := rfl
  have hSame := levelAfter_unsensed (history past).level hSensed
  have hLater : Mends (sinceEdge (past ++ [⟨s, .join⟩])) (history past).level s.now s.leak.state
      (s.leak.pending.map Pending.call) s.outside.store.recordSheet :=
    mends_longer hMending (sinceEdge_longer hSame) le_rfl
  have hPhase : s.leak.state.reset.phase = s.leak.state.phase := rfl
  show Mends _ (history (past ++ [⟨s, .join⟩])).level s.now s.leak.state.reset _
    s.outside.store.recordSheet
  rw [history_levelAfter, hSame]
  unfold Mends at hLater ⊢
  rw [hPhase]
  rcases leak_over hOrder hOver with hOnly | hOnly | hOnly <;>
  · rw [hOnly] at hLater ⊢
    exact hLater

section Move

variable {served next : Monitor} {event : Leak.Event} {result : Watch × List Effect}

theorem mending_next (hMoves : LeakMoves s event result served next)
    (hMends : Mends (sinceEdge (past ++ [⟨s, .turn .leak⟩]))
      ((Scene.mk s (.turn .leak)).levelAfter (history past).level) s.now result.1
      (callsOf result.2).getLast? served.outside.store.recordSheet) :
    Mending (past ++ [⟨s, .turn .leak⟩]) next := by
  unfold Mending
  rw [history_levelAfter, leakMoves_call hMoves, hMoves.leak, hMoves.now, hMoves.outside]
  exact hMends

theorem mending_observed {outcome : Except Fault Bool} {present : Bool}
    (hMoves : LeakMoves s (.reply (.sensors (.level outcome)))
      (s.leak.state.observe s.now present) served next)
    (hPresent : outcome.toOption.getD (history past).level = present)
    (hPrevious : s.leak.state.previous = (history past).level)
    (hMended : AllStored (sinceEdge past) ->
      Mended (history past).level s.leak.state.latest s.outside.store.recordSheet) :
    Mending (past ++ [⟨s, .turn .leak⟩]) next := by
  have hLevel : (Scene.mk s (.turn .leak)).levelAfter (history past).level = present := by
    simp [Scene.levelAfter, Scene.reading?, sensed_reply hMoves, hPresent]
  apply mending_next hMoves
  rw [leakServes_unstored hMoves.serves (by simp), hLevel]
  by_cases hSame : present = (history past).level
  · have hLonger := sinceEdge_longer (hLevel.trans hSame)
    rw [← hSame] at hPrevious hMended
    exact mends_observe_same hPrevious fun hStored => hMended (hLonger.stored hStored)
  · apply mends_observe_edge
    · rw [hPrevious]
      exact Ne.symm hSame
    · rw [sinceEdge_edge (by rw [hLevel]; exact hSame)]
      exact List.cons_ne_nil _ _

theorem mending_kept (hMending : Mending past s) (hMoves : LeakMoves s event result served next)
    (hSame : (Scene.mk s (.turn .leak)).levelAfter (history past).level = (history past).level)
    (hKept : forall dealt, Longer (sinceEdge past) ⟨s, .turn .leak⟩ dealt ->
      Mends dealt (history past).level s.now s.leak.state (s.leak.pending.map Pending.call)
        s.outside.store.recordSheet ->
      Mends dealt (history past).level s.now result.1 (callsOf result.2).getLast?
        served.outside.store.recordSheet) :
    Mending (past ++ [⟨s, .turn .leak⟩]) next := by
  have hLonger := sinceEdge_longer hSame
  apply mending_next hMoves
  rw [hSame]
  exact hKept _ hLonger (mends_longer hMending hLonger le_rfl)

theorem leak_stored {dealt : List Scene} {answer : Store.Answer}
    (hMoves : LeakMoves s (.reply (.store answer)) result served next)
    (hLonger : Longer (sinceEdge past) ⟨s, .turn .leak⟩ dealt) (hSome : sinceEdge past ≠ [])
    (hStored : AllStored dealt) : answer.isOk = true := by
  apply hLonger.scene hSome hStored
  simp [Scene.reply?, hMoves.scene]

theorem leak_lookup_store {outcome : Except Fault (Option Record)} (hOrder : InOrder s)
    (hNumbered : s.outside.store.recordSheet.Numbered)
    (hServes : LeakServes s (.reply (.store (.latestRecord outcome))) served)
    (hPhase : s.leak.state.phase = .loading ∨ s.leak.state.phase = .recalling) :
    served.outside.store = s.outside.store := by
  have hCall := leak_lookup hOrder hPhase
  generalize hEvent : Leak.Event.reply (.store (.latestRecord outcome)) = event at hServes
  cases hServes with
  | @reply pending hPending hDue =>
      rw [hPending] at hCall
      have hLookup : pending.call = .store .latestRecord := Option.some.inj hCall
      rcases answer_store_cases s.outside s.now pending.call with
        hStore | ⟨request, hRequest, _, hStore⟩
      · exact hStore
      · cases hLookup.symm.trans hRequest
        rw [Store.answer_latestRecord _ hNumbered] at hStore
        exact hStore
  | _ => cases hEvent

theorem mending_looked {outcome : Except Fault (Option Record)} (hOrder : InOrder s)
    (hMending : Mending past s) (hNumbered : s.outside.store.recordSheet.Numbered)
    (hMoves : LeakMoves s (.reply (.store (.latestRecord outcome))) result served next)
    (hPhase : s.leak.state.phase = .recalling) :
    Mending (past ++ [⟨s, .turn .leak⟩]) next := by
  have hSome : sinceEdge past ≠ [] := by
    unfold Mending Mends at hMending
    rw [hPhase] at hMending
    exact hMending.2.2
  apply mending_kept hMending hMoves (levelAfter_unsensed _ (sensed_none hMoves (by simp)))
  intro dealt hLonger hMends
  rw [leak_lookup_store hOrder hNumbered hMoves.serves (Or.inr hPhase), ← hMoves.step]
  apply mends_recalled outcome hMends hPhase
  · intro hOk
    exact (leak_looked hOrder hNumbered hMoves.serves (Or.inr hPhase) hOk).1
  · exact leak_stored hMoves hLonger hSome

theorem mending_recorded {outcome : Except Fault Record} (hMending : Mending past s)
    (hCalendar : (instantOf s.now).inCalendar = true)
    (hMoves : LeakMoves s (.reply (.store (.record outcome)))
      (Watch.after [.notify "Leak detected! Pump turned off."]
        ((s.leak.state.updated outcome).settle s.now)) served next)
    (hPhase : s.leak.state.phase = .recording) :
    Mending (past ++ [⟨s, .turn .leak⟩]) next := by
  have hBefore := hMending
  unfold Mending Mends at hBefore
  rw [hPhase] at hBefore
  rcases hBefore with ⟨hWet, hPresent, hSome, called, hCalled, hCall⟩
  apply mending_kept hMending hMoves (levelAfter_unsensed _ (sensed_none hMoves (by simp)))
  intro dealt hLonger _
  rw [hWet]
  refine mends_settle s.now (by cases outcome <;> exact hPresent) ?_
  intro hStored
  have hAnswered := leakServes_stored hMoves.serves hCall
    (leak_stored hMoves hLonger hSome hStored)
  have hLegible := Time.legible_instantOf (Time.inCalendar_of_le hCalled hCalendar)
  rcases Store.answer_createRecord s.outside.store (instantOf s.now) (instantOf called) with
    ⟨row, _, hValue, hAnswer, hSheet⟩
  cases Store.Answer.record.inj (hAnswered.1.trans hAnswer)
  rw [hAnswered.2, hSheet]
  exact Leak.mended_wet (Sheet.latest_push (hValue hLegible)) rfl

theorem mending_cleared {outcome : Except Fault Record} (hMending : Mending past s)
    (hNumbered : s.outside.store.recordSheet.Numbered)
    (hCalendar : (instantOf s.now).inCalendar = true)
    (hMoves : LeakMoves s (.reply (.store (.record outcome))) result served next)
    (hPhase : s.leak.state.phase = .closing)
    (hResult : result.1 = ((s.leak.state.updated outcome).settle s.now).1) :
    Mending (past ++ [⟨s, .turn .leak⟩]) next := by
  have hBefore := hMending
  unfold Mending Mends at hBefore
  rw [hPhase] at hBefore
  rcases hBefore with ⟨hDry, hPresent, hSome, record, hCall, hLatest⟩
  apply mending_kept hMending hMoves (levelAfter_unsensed _ (sensed_none hMoves (by simp)))
  intro dealt hLonger _
  rw [hDry, hResult]
  refine mends_settle s.now (by cases outcome <;> exact hPresent) ?_
  intro hStored
  have hAnswered := leakServes_stored hMoves.serves hCall
    (leak_stored hMoves hLonger hSome hStored)
  have hLegible := Time.legible_instantOf hCalendar
  have hCleared := Sheet.latest_amend hNumbered hLatest fun row hRow =>
    Store.value?_cleared hLegible hRow
  apply Leak.mended_dry
  rw [hAnswered.2, (Store.answer_clearRecord (instantOf s.now) record.id hNumbered).2]
  intro hLast
  exact Bool.false_ne_true ((Leak.lastOpen_some hCleared).mp hLast)

theorem mending_move (hOrder : InOrder s) (hMending : Mending past s)
    (hNumbered : s.outside.store.recordSheet.Numbered)
    (hCalendar : (instantOf s.now).inCalendar = true)
    (hMoves : LeakMoves s event result served next) :
    Mending (past ++ [⟨s, .turn .leak⟩]) next := by
  have hUnsensed := sensed_none hMoves
  have hStore := leakServes_unstored hMoves.serves
  have hMove := hMoves.move
  cases hMove with
  | loaded outcome hPhase =>
      apply mending_kept hMending hMoves (levelAfter_unsensed _ (hUnsensed (by simp)))
      intro dealt hLonger hMends
      rw [leak_lookup_store hOrder hNumbered hMoves.serves (Or.inl hPhase)]
      unfold Mends at hMends
      rw [hPhase] at hMends
      exact hMends
  | seeded outcome hPhase =>
      unfold Mending Mends at hMending
      rw [hPhase] at hMending
      rcases hMending with ⟨hDry, hPrevious, hClosed⟩
      refine mending_observed hMoves (by rw [hDry]) (hPrevious.trans hDry.symm) ?_
      rw [hDry]
      exact fun _ => Leak.mended_dry _ hClosed
  | halted outcome hPhase =>
      have hSame : (Scene.mk s (.turn .leak)).levelAfter (history past).level =
          (history past).level := by
        simp [Scene.levelAfter, Scene.reading?, sensed_reply hMoves]
      apply mending_kept hMending hMoves hSame
      intro dealt hLonger hMends
      rw [hStore (by simp)]
      exact mends_halted outcome hMends hPhase
  | recorded outcome hPhase => exact mending_recorded hMending hCalendar hMoves hPhase
  | recalled hPhase hOpen => exact mending_looked hOrder hMending hNumbered hMoves hPhase
  | unmatched outcome hPhase => exact mending_looked hOrder hMending hNumbered hMoves hPhase
  | cleared record hPhase => exact mending_cleared hMending hNumbered hCalendar hMoves hPhase rfl
  | notCleared fault hPhase =>
      exact mending_cleared hMending hNumbered hCalendar hMoves hPhase rfl
  | finished hPhase =>
      apply mending_kept hMending hMoves (levelAfter_unsensed _ (hUnsensed (by simp)))
      intro dealt hLonger hMends
      rw [hStore (by simp)]
      unfold Mends at hMends
      rw [hPhase] at hMends
      exact fun hStored => (hMends.2.2 hStored).table
  | ticked hPhase hTicker hDue =>
      apply mending_kept hMending hMoves (levelAfter_unsensed _ (hUnsensed (by simp)))
      intro dealt hLonger hMends
      rw [hStore (by simp)]
      unfold Mends at hMends
      rw [hPhase] at hMends
      exact hMends
  | polled present hPhase =>
      unfold Mending Mends at hMending
      rw [hPhase] at hMending
      exact mending_observed hMoves rfl hMending.1 hMending.2.2
  | missed fault hPhase hTicker =>
      have hSame : (Scene.mk s (.turn .leak)).levelAfter (history past).level =
          (history past).level := by
        simp [Scene.levelAfter, Scene.reading?, sensed_reply hMoves, Except.toOption]
      apply mending_kept hMending hMoves hSame
      intro dealt hLonger hMends
      rw [hStore (by simp)]
      unfold Mends at hMends
      rw [hPhase] at hMends
      exact hMends

end Move

theorem mending_happen (hOrder : InOrder s) (hMending : Mending past s) (h : Happening)
    (hNumbered : s.outside.store.recordSheet.Numbered)
    (hUndisturbed : (Scene.mk s h).Undisturbed .leak)
    (hCalendar : (instantOf s.now).inCalendar = true) :
    Mending (past ++ [⟨s, h⟩]) (s.happen h) := by
  generalize hNext : s.happen h = next
  have hHappens : LeakHappens s h next := hNext ▸ leak_happens hOrder h
  cases hHappens with
  | apart hApart => exact mending_apart hMending hApart hUndisturbed
  | start hFresh => exact mending_start hOrder hMending hFresh
  | move hMoves => exact mending_move hOrder hMending hNumbered hCalendar hMoves
  | join hCancelled hOver => exact mending_join hOrder hMending hOver

end

theorem mending_after (config : Config) (now : Nat) (outside : Outside)
    (sink : Option Notice.Sink) (hs : List Happening)
    (hNumbered : outside.store.recordSheet.Numbered)
    (hClosed : ¬ LastOpen outside.store.recordSheet)
    (hUndisturbed : forall scene, scene ∈ (assemble config now outside sink).scenes hs ->
      scene.Undisturbed .leak)
    (hCalendar : (instantOf ((assemble config now outside sink).after hs).now).inCalendar = true) :
    Mending ((assemble config now outside sink).scenes hs)
        ((assemble config now outside sink).after hs) ∧
      ((assemble config now outside sink).after hs).outside.store.recordSheet.Numbered := by
  refine scenes_invariant (inOrder_assemble config now outside sink)
    (fun scene => scene.Undisturbed .leak ∧ (instantOf scene.before.now).inCalendar = true)
    (fun past s => Mending past s ∧ s.outside.store.recordSheet.Numbered)
    ⟨⟨rfl, rfl, hClosed⟩, hNumbered⟩ ?_ hs ?_
  · intro past before h hOrder hAllowed hHolds
    exact ⟨mending_happen hOrder hHolds.1 h hHolds.2 hAllowed.1 hAllowed.2,
      records_happen hOrder hAllowed.1 hHolds.2⟩
  · intro scene hMem
    exact ⟨hUndisturbed scene hMem, inCalendar_scenes hCalendar hMem⟩

end Monitor
end TubMonitor
