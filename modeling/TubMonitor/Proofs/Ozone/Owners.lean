import TubMonitor.Proofs.Ozone.Mirror

/-!
# Whose row is changed

Whatever fails: a row is added for a run that begins, and after that none is changed but
the row of the run that the loop has in its hands, which is the one that was added last.
The rows from before the session are not among them.
-/

namespace TubMonitor

namespace Ozone

/-- The row of the run that the loop has in its hands, if the run has one. -/
def Controller.inHand? (c : Controller) : Option Int :=
  match c.phase with
  | .waiting (some run) | .switchingOff run _ | .closing run _ _ _ | .labelling run _ _ => run.id
  | .switchingOn _ id => id
  | .flagging _ id _ => some id
  | _ => none

theorem retired_inHand (c : Controller) (now : Nat) (run : Run) (ending : Ending)
    (stop : Time.Instant) : (c.retired now run ending stop).1.inHand? = none := by
  cases ending <;> rfl

/-- A move keeps hold of the row, lets go of it, or has just been given one. -/
theorem inHand_move {now : Nat} {c : Controller} {event : Event}
    {result : Controller × List Monitor.Effect} (h : Controller.Move now c event result) :
    result.1.inHand? = none ∨ result.1.inHand? = c.inHand? ∨
      exists opening outcome, c.phase = .recording opening ∧
        event = .reply (.store (.entry outcome)) ∧
        result.1.inHand? = outcome.toOption.map Entry.id := by
  cases h with
  | unfiled outcome hPhase hRow => exact Or.inl (retired_inHand ..)
  | labelled outcome hPhase => exact Or.inl (retired_inHand ..)
  | recorded outcome hPhase => exact Or.inr (Or.inr ⟨_, outcome, hPhase, rfl, rfl⟩)
  | opened minutes ticket hPhase => exact Or.inl rfl
  | loaded outcome hPhase => exact Or.inl rfl
  | secured outcome hPhase => exact Or.inl rfl
  | finished hPhase => exact Or.inl rfl
  | failedUnfiled fault hPhase => exact Or.inl rfl
  | spared ticket hPhase => exact Or.inr (Or.inl rfl)
  | _ =>
      refine Or.inr (Or.inl ?_)
      unfold Controller.inHand?
      simp [*, Controller.retire, Controller.began, Controller.beganWithout]

end Ozone

namespace Monitor

open Ozone (Controller Entry)
open Store (Row Sheet)
open Time (instantOf)

/-!
## Changes of the rows
-/

/-- What may become of the table while the loop is in some state. -/
inductive Changes (c : Controller) (t : Sheet Entry) : Sheet Entry -> Prop where
  | same : Changes c t t
  | opened {opening : Ozone.Opening} {row : Row Entry} (hPhase : c.phase = .recording opening)
      (hId : row.id = t.lastId + 1) : Changes c t (t.push row)
  | amended {id : Int} {change : Row Entry -> Row Entry} (hHand : c.inHand? = some id)
      (hId : forall row, (change row).id = row.id) : Changes c t (t.amend id change)

section

variable {s : Monitor}

theorem changes_answered {request : Store.Request} (hOrder : InOrder s)
    (hNumbered : s.outside.store.entrySheet.Numbered)
    (hCall : s.ozone.state.call? = some (.store request)) :
    Changes s.ozone.state s.outside.store.entrySheet
      (s.outside.store.answer (instantOf s.now) request).2.entrySheet := by
  have hFiled := hOrder.ozone.filed
  unfold Controller.call? at hCall
  unfold Controller.Filed at hFiled
  cases hPhase : s.ozone.state.phase with
  | loading =>
      rw [hPhase] at hCall
      cases hCall
      rw [Store.answer_latestEntry _ hNumbered]
      exact .same
  | closing run ending id stop =>
      rw [hPhase] at hCall hFiled
      cases hCall
      rw [(Store.answer_stopEntry (instantOf s.now) id hNumbered).2]
      exact .amended (by simp [Controller.inHand?, hPhase, hFiled]) (Store.id_closed _)
  | labelling run ending stop =>
      rw [hPhase] at hCall
      rcases Option.map_eq_some_iff.mp hCall with ⟨id, hRow, hRequest⟩
      cases hRequest
      rw [(Store.answer_setStatus (instantOf s.now) id ending.status hNumbered).2]
      exact .amended (by simp [Controller.inHand?, hPhase, hRow]) (Store.id_labelled _)
  | recording opening =>
      rw [hPhase] at hCall
      cases hCall
      rcases Store.answer_startEntry s.outside.store (instantOf s.now) opening.start
        opening.minutes with ⟨row, hId, _, _, hSheet⟩
      rw [hSheet]
      exact .opened hPhase hId
  | flagging opening id why =>
      rw [hPhase] at hCall
      cases hCall
      rw [(Store.answer_setStatus (instantOf s.now) id _ hNumbered).2]
      exact .amended (by simp [Controller.inHand?, hPhase]) (Store.id_labelled _)
  | _ =>
      rw [hPhase] at hCall
      cases hCall

theorem changes_serves {event : Ozone.Event} {served : Monitor} (hOrder : InOrder s)
    (hNumbered : s.outside.store.entrySheet.Numbered) (hServes : OzoneServes s event served) :
    Changes s.ozone.state s.outside.store.entrySheet served.outside.store.entrySheet := by
  cases hServes with
  | @reply pending hPending hDue =>
      have hMade := hOrder.ozone.call
      rw [hPending] at hMade
      rcases answer_store_cases s.outside s.now pending.call with
        hStore | ⟨request, hRequest, _, hStore⟩
      · dsimp only
        rw [hStore]
        exact .same
      · have hCall : s.ozone.state.call? = some (.store request) := by
          rw [← hMade, ← hRequest]
          rfl
        dsimp only
        rw [hStore]
        exact changes_answered hOrder hNumbered hCall
  | _ => exact .same

theorem changes_happen (hOrder : InOrder s) (hNumbered : s.outside.store.entrySheet.Numbered)
    (h : Happening) (hUndisturbed : (Scene.mk s h).Undisturbed .ozone) :
    Changes s.ozone.state s.outside.store.entrySheet
      (s.happen h).outside.store.entrySheet := by
  cases hEvent : (Scene.mk s h).ozoneEvent? with
  | none =>
      rw [entries_apart hOrder hUndisturbed hEvent]
      exact .same
  | some event =>
      generalize hNext : s.happen h = next
      have hHappens : OzoneHappens s h next := hNext ▸ ozone_happens hOrder h
      cases hHappens with
      | apart hApart =>
          rw [hApart.event] at hEvent
          cases hEvent
      | move hMoves =>
          rw [ozoneMoves_outside hMoves]
          exact changes_serves hOrder hNumbered hMoves.serves
      | start hFresh => cases hEvent
      | join hCancelled hOver => cases hEvent

end

theorem changes_numbered {c : Controller} {t after : Sheet Entry} (h : Changes c t after)
    (hNumbered : t.Numbered) : after.Numbered := by
  cases h with
  | same => exact hNumbered
  | opened hPhase hId => exact Sheet.push_numbered hNumbered hId
  | amended hHand hId => exact Sheet.amend_numbered hNumbered _ hId

/-!
## Rows that were given out
-/

/-- What the store has answered to the loop for a new row. -/
def Scene.givenRow? (scene : Scene) : Option (Except Fault Entry) :=
  match scene.before.ozone.state.phase, scene.reply? .ozone with
  | .recording _, some (.store (.entry outcome)) => some outcome
  | _, _ => none

/-- The row of the run that was begun last, if the store has taken it. -/
def lastRow? (past : List Scene) : Option Entry :=
  (past.filterMap Scene.givenRow?).getLast?.bind Except.toOption

theorem lastRow?_none (past : List Scene) {scene : Scene} (h : scene.givenRow? = none) :
    lastRow? (past ++ [scene]) = lastRow? past := by
  simp [lastRow?, h]

theorem lastRow?_some (past : List Scene) {scene : Scene} {outcome : Except Fault Entry}
    (h : scene.givenRow? = some outcome) :
    lastRow? (past ++ [scene]) = outcome.toOption := by
  simp [lastRow?, h]

/-- The row in the hands of the loop is the last one that was given to it, added since. -/
structure Owned (base : List (Row Entry)) (past : List Scene) (s : Monitor) : Prop where
  numbered : s.outside.store.entrySheet.Numbered
  rows : exists later, s.outside.store.entrySheet.rows = base ++ later ∧
    forall id, s.ozone.state.inHand? = some id ->
      (lastRow? past).map Entry.id = some id ∧ id ∈ later.map Row.id

section

variable {base : List (Row Entry)} {past : List Scene} {s : Monitor}

/-- What was there before is left alone, and what was added is still there. -/
theorem changes_rows {c : Controller} {t after : Sheet Entry} {later : List (Row Entry)}
    (h : Changes c t after) (hNumbered : t.Numbered) (hRows : t.rows = base ++ later)
    (hHand : forall id, c.inHand? = some id -> id ∈ later.map Row.id) :
    exists next, after.rows = base ++ next ∧
      forall id, id ∈ later.map Row.id -> id ∈ next.map Row.id := by
  cases h with
  | same => exact ⟨later, hRows, fun _ hMem => hMem⟩
  | @opened opening row hPhase hId =>
      refine ⟨later ++ [row], by simp [Sheet.push, hRows], ?_⟩
      intro id hMem
      rw [List.map_append]
      exact List.mem_append_left _ hMem
  | @amended id change hSome hId =>
      have hGrowing := hNumbered.growing
      rw [Sheet.ids, hRows, List.map_append, List.pairwise_append] at hGrowing
      have hBase : base.map (fun row => if row.id = id then change row else row) = base := by
        apply Sheet.amend_others
        intro row hMem
        exact Int.ne_of_lt
          (hGrowing.2.2 row.id (List.mem_map_of_mem hMem) id (hHand id hSome))
      refine ⟨later.map fun row => if row.id = id then change row else row, ?_, ?_⟩
      · rw [Sheet.amend, hRows, List.map_append, hBase]
      · intro other hMem
        rcases List.mem_map.mp hMem with ⟨row, hRow, rfl⟩
        refine List.mem_map.mpr ⟨_, List.mem_map_of_mem hRow, ?_⟩
        split
        · exact hId row
        · rfl

theorem givenRow?_inHand {scene : Scene} {id : Int}
    (h : scene.before.ozone.state.inHand? = some id) : scene.givenRow? = none := by
  unfold Scene.givenRow?
  split
  · next opening outcome hPhase hReply =>
      rw [Controller.inHand?, hPhase] at h
      cases h
  · rfl

theorem given_added {served next : Monitor} {opening : Ozone.Opening} {entry : Entry}
    {result : Controller × List Effect} {later added : List (Row Entry)} (hOrder : InOrder s)
    (hMoves : OzoneMoves s (.reply (.store (.entry (.ok entry)))) result served next)
    (hPhase : s.ozone.state.phase = .recording opening)
    (hRows : s.outside.store.entrySheet.rows = base ++ later)
    (hAfter : next.outside.store.entrySheet.rows = base ++ added) :
    entry.id ∈ added.map Row.id := by
  have hCall : s.ozone.state.call? =
      some (.store (.startEntry opening.start opening.minutes)) := by
    simp [Controller.call?, hPhase]
  have hStored := ozoneServes_stored hOrder hMoves.serves hCall rfl
  rcases Store.answer_startEntry s.outside.store (instantOf s.now) opening.start
    opening.minutes with ⟨row, hId, _, hAnswer, hSheet⟩
  cases Store.Answer.entry.inj (hStored.1.trans hAnswer)
  rw [ozoneMoves_outside hMoves, hStored.2, hSheet] at hAfter
  have hSame : base ++ added = base ++ (later ++ [row]) := by
    rw [← hAfter, Sheet.push, hRows, List.append_assoc]
  rw [List.append_cancel_left hSame, List.map_append, List.mem_append]
  exact Or.inr (by simp [hId, Store.begun])

theorem owned_move {event : Ozone.Event} {result : Controller × List Effect}
    {served next : Monitor} (hOrder : InOrder s) (hOwned : Owned base past s)
    (hMoves : OzoneMoves s event result served next)
    (hChanges : Changes s.ozone.state s.outside.store.entrySheet next.outside.store.entrySheet) :
    Owned base (past ++ [⟨s, .turn .ozone⟩]) next := by
  rcases hOwned.rows with ⟨later, hRows, hHand⟩
  rcases changes_rows hChanges hOwned.numbered hRows (fun id hId => (hHand id hId).2) with
    ⟨added, hAfter, hKept⟩
  refine ⟨changes_numbered hChanges hOwned.numbered, added, hAfter, ?_⟩
  intro id hId
  rw [hMoves.ozone] at hId
  rcases Ozone.inHand_move hMoves.move with
    hNone | hSame | ⟨opening, outcome, hPhase, rfl, hGiven⟩
  · rw [hNone] at hId
    cases hId
  · rw [hSame] at hId
    rw [lastRow?_none past (givenRow?_inHand hId)]
    exact ⟨(hHand id hId).1, hKept id (hHand id hId).2⟩
  · rw [hGiven] at hId
    have hRow : (Scene.mk s (.turn .ozone)).givenRow? = some outcome := by
      simp [Scene.givenRow?, hPhase, Scene.reply?, hMoves.scene]
    rw [lastRow?_some past hRow]
    refine ⟨hId, ?_⟩
    cases outcome with
    | error fault => cases hId
    | ok entry =>
        cases hId
        exact given_added hOrder hMoves hPhase hRows hAfter

theorem owned_kept {h : Happening} {next : Monitor} (hOwned : Owned base past s)
    (hChanges : Changes s.ozone.state s.outside.store.entrySheet next.outside.store.entrySheet)
    (hHeld : forall id, next.ozone.state.inHand? = some id -> s.ozone.state.inHand? = some id) :
    Owned base (past ++ [⟨s, h⟩]) next := by
  rcases hOwned.rows with ⟨later, hRows, hHand⟩
  rcases changes_rows hChanges hOwned.numbered hRows (fun id hId => (hHand id hId).2) with
    ⟨added, hAfter, hKept⟩
  refine ⟨changes_numbered hChanges hOwned.numbered, added, hAfter, ?_⟩
  intro id hId
  have hBefore := hHeld id hId
  have hNone : (Scene.mk s h).givenRow? = none := givenRow?_inHand hBefore
  rw [lastRow?_none past hNone]
  exact ⟨(hHand id hBefore).1, hKept id (hHand id hBefore).2⟩

theorem owned_happen (hOrder : InOrder s) (hOwned : Owned base past s) (h : Happening)
    (hUndisturbed : (Scene.mk s h).Undisturbed .ozone) :
    Owned base (past ++ [⟨s, h⟩]) (s.happen h) := by
  have hChanges := changes_happen hOrder hOwned.numbered h hUndisturbed
  generalize hNext : s.happen h = next at hChanges
  have hHappens : OzoneHappens s h next := hNext ▸ ozone_happens hOrder h
  cases hHappens with
  | apart hApart =>
      apply owned_kept hOwned hChanges
      rw [hApart.ozone]
      exact fun _ hId => hId
  | start hFresh =>
      apply owned_kept hOwned hChanges
      rw [start_ozone_state hFresh]
      intro id hId
      cases hId
  | move hMoves => exact owned_move hOrder hOwned hMoves hChanges
  | join hCancelled hOver => exact owned_kept hOwned hChanges fun _ hId => hId

end

theorem owned_after (config : Config) (now : Nat) (outside : Outside)
    (sink : Option Notice.Sink) (hs : List Happening)
    (hNumbered : outside.store.entrySheet.Numbered)
    (hUndisturbed : forall scene, scene ∈ (assemble config now outside sink).scenes hs ->
      scene.Undisturbed .ozone) :
    Owned outside.store.entrySheet.rows ((assemble config now outside sink).scenes hs)
      ((assemble config now outside sink).after hs) := by
  refine scenes_invariant (inOrder_assemble config now outside sink) (Scene.Undisturbed .ozone)
    (Owned outside.store.entrySheet.rows)
    ⟨hNumbered, [], (List.append_nil _).symm, fun id hId => by cases hId⟩ ?_ hs hUndisturbed
  intro past before h hOrder hAllowed hOwned
  exact owned_happen hOrder hOwned h hAllowed

end Monitor
end TubMonitor
