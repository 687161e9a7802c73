import TubMonitor.Proofs.Leak.Law
import TubMonitor.Proofs.Leak.Mending

/-!
# Store failures

A leak and its end are each written down once, when they are noticed.  If the store fails
the loop then, nothing is written until the next edge, however well the store does in the
meantime; once the calls of an edge have come through, the table is right again, whatever
has failed before.
-/

namespace TubMonitor
namespace Monitor

open Leak (LastOpen Mended Record Watch)
open Store (Row Sheet)
open Time (instantOf)

/-!
## Between two edges
-/

/-- The last edge has been dealt with, successfully or not. -/
def DealtWith (level : Bool) (w : Watch) : Prop :=
  match w.phase with
  | .waiting | .polling => w.previous = level
  | .halting => w.previous = level ∧ w.present = level
  | .ended | .failed => True
  | _ => False

section

variable {level : Bool} {s : Monitor}

theorem dealtWith_settle {w : Watch} (moment : Nat) (h : w.present = level) :
    DealtWith level (w.settle moment).1 := by
  rcases Leak.settle_cases w moment with ⟨_, hPrevious, _, _, hPhase | hPhase⟩
  · unfold DealtWith
    rw [hPhase, hPrevious]
    exact h
  · unfold DealtWith
    rw [hPhase]
    trivial

theorem dealtWith_follow {w : Watch} (moment : Nat) (hPrevious : w.previous = level)
    (hPresent : w.present = level) : DealtWith level (w.follow moment).1 := by
  have hSettle : w.follow moment = w.settle moment := by
    rw [Watch.follow, hPrevious, hPresent]
    cases level <;> rfl
  rw [hSettle]
  exact dealtWith_settle moment hPresent

theorem dealtWith_observe {w : Watch} (moment : Nat) (hPrevious : w.previous = level) :
    DealtWith level (w.observe moment level).1 := by
  cases level with
  | true => exact ⟨hPrevious, rfl⟩
  | false => exact dealtWith_follow (w := { w with present := false }) moment hPrevious rfl

theorem dealtWith_move {served next : Monitor} {event : Leak.Event}
    {result : Watch × List Effect} (hDealtWith : DealtWith level s.leak.state)
    (hMoves : LeakMoves s event result served next)
    (hSame : (Scene.mk s (.turn .leak)).levelAfter level = level) :
    DealtWith level result.1 ∧ served.outside.store = s.outside.store := by
  have hStore := leakServes_unstored hMoves.serves
  have hMove := hMoves.move
  unfold DealtWith at hDealtWith
  cases hMove with
  | halted outcome hPhase =>
      rw [hPhase] at hDealtWith
      exact ⟨dealtWith_follow s.now hDealtWith.1 hDealtWith.2, hStore (by simp)⟩
  | finished hPhase => exact ⟨trivial, hStore (by simp)⟩
  | ticked hPhase hTicker hDue =>
      rw [hPhase] at hDealtWith
      exact ⟨hDealtWith, hStore (by simp)⟩
  | polled present hPhase =>
      rw [hPhase] at hDealtWith
      have hPresent : present = level := by
        simpa [Scene.levelAfter, Scene.reading?, sensed_reply hMoves, Except.toOption] using hSame
      subst hPresent
      exact ⟨dealtWith_observe s.now hDealtWith, hStore (by simp)⟩
  | missed fault hPhase hTicker =>
      rw [hPhase] at hDealtWith
      exact ⟨hDealtWith, hStore (by simp)⟩
  | _ => simp_all

theorem dealtWith_join (hOrder : InOrder s) (hDealt : DealtWith level s.leak.state)
    (hOver : s.isOver = true) : DealtWith level s.join.leak.state := by
  show DealtWith level s.leak.state.reset
  have hPhase : s.leak.state.reset.phase = s.leak.state.phase := rfl
  unfold DealtWith at hDealt ⊢
  rw [hPhase]
  rcases leak_over hOrder hOver with hOnly | hOnly | hOnly <;>
  · rw [hOnly] at hDealt ⊢
    exact hDealt

theorem dealtWith_happen (hOrder : InOrder s) (hDealt : DealtWith level s.leak.state)
    (h : Happening) (hUndisturbed : (Scene.mk s h).Undisturbed .leak)
    (hSame : (Scene.mk s h).levelAfter level = level) :
    DealtWith level (s.happen h).leak.state ∧
      (s.happen h).outside.store.recordSheet = s.outside.store.recordSheet := by
  generalize hNext : s.happen h = next
  have hHappens : LeakHappens s h next := hNext ▸ leak_happens hOrder h
  cases hHappens with
  | apart hApart =>
      rw [hApart.leak, Store.recordSheet_only (hApart.rows hUndisturbed)]
      exact ⟨hDealt, rfl⟩
  | start hFresh =>
      unfold DealtWith at hDealt
      rw [leak_unbegun hOrder hFresh] at hDealt
      exact hDealt.elim
  | move hMoves =>
      rcases dealtWith_move hDealt hMoves hSame with ⟨hAfter, hStore⟩
      rw [hMoves.leak, hMoves.outside, hStore]
      exact ⟨hAfter, rfl⟩
  | join hCancelled hOver => exact ⟨dealtWith_join hOrder hDealt hOver, rfl⟩

theorem edges_scene {scene : Scene} {rest : List Scene}
    (h : Leak.edges level (Leak.levels level (readings (scene :: rest))) = []) :
    scene.levelAfter level = level ∧
      Leak.edges level (Leak.levels level (readings rest)) = [] := by
  unfold readings at h
  cases hReading : scene.reading? with
  | none =>
      rw [List.filterMap_cons_none hReading] at h
      exact ⟨by simp [Scene.levelAfter, hReading], h⟩
  | some reading =>
      rcases reading with ⟨moment, outcome⟩
      rw [List.filterMap_cons_some hReading, Leak.levels, Leak.edges] at h
      by_cases hSame : outcome.toOption.getD level = level
      · rw [if_pos hSame, hSame] at h
        exact ⟨by simp [Scene.levelAfter, hReading, hSame], h⟩
      · rw [if_neg hSame] at h
        cases h

theorem dealtWith_after (hOrder : InOrder s) (hDealt : DealtWith level s.leak.state)
    (later : List Happening)
    (hUndisturbed : forall scene, scene ∈ s.scenes later -> scene.Undisturbed .leak)
    (hEdges : Leak.edges level (Leak.levels level (readings (s.scenes later))) = []) :
    (s.after later).outside.store.recordSheet = s.outside.store.recordSheet := by
  induction later generalizing s with
  | nil => rfl
  | cons h rest ih =>
      rw [scenes_cons] at hUndisturbed hEdges
      rcases edges_scene hEdges with ⟨hSame, hRest⟩
      rcases dealtWith_happen hOrder hDealt h (hUndisturbed _ (List.mem_cons_self ..)) hSame with
        ⟨hNext, hSheet⟩
      rw [after_cons, ← hSheet]
      apply ih (inOrder_happen hOrder h) hNext
      · intro scene hMem
        exact hUndisturbed scene (List.mem_cons_of_mem _ hMem)
      · exact hRest

end

/-!
## The law
-/

theorem mends_rest {past : List Scene} {s : Monitor} (hOrder : InOrder s)
    (hFree : s.leak.pending = none) (hMending : Mending past s) :
    (AllStored (sinceEdge past) ->
        (LastOpen s.outside.store.recordSheet ↔ (history past).level = true)) ∧
      (s.leak.state.ticker?.isSome = true ->
        s.leak.state.previous = (history past).level ∧
          s.leak.state.present = (history past).level ∧
          (AllStored (sinceEdge past) ->
            Mended (history past).level s.leak.state.latest s.outside.store.recordSheet)) := by
  have hExpects := hOrder.leak.expects
  rw [hFree] at hExpects
  generalize hNone : Option.map Pending.call none = call? at hExpects
  unfold Mending Mends at hMending
  cases hExpects with
  | dormant hPhase =>
      rw [hPhase] at hMending
      rw [hMending.1]
      exact ⟨fun _ => iff_of_false hMending.2.2 Bool.false_ne_true,
        fun hTicker => by simp [Watch.ticker?, hPhase] at hTicker⟩
  | waiting hPhase hTicker =>
      rw [hPhase] at hMending
      exact ⟨fun hStored => (hMending.2.2 hStored).table, fun _ => hMending⟩
  | ended hPhase | failed hPhase =>
      rw [hPhase] at hMending
      exact ⟨hMending, fun hTicker => by simp [Watch.ticker?, hPhase] at hTicker⟩
  | _ => cases hNone

/--
The law of a store that may fail at any time, of which nobody else writes in the table and
whose latest record is not open at first.  If the calls of the last edge have come through,
then wherever the loop has nothing under way the latest record is open exactly when the
last level is wet, and while the loop waits the panel shows that record.  From a wait on,
nothing is written before the next edge, whatever has failed and whatever comes through.
-/
theorem leak_recovery_law (config : Config) (now : Nat) (outside : Outside)
    (sink : Option Notice.Sink) (hs later : List Happening) :
    let past := (assemble config now outside sink).scenes hs
    let s := (assemble config now outside sink).after hs
    let level := Leak.lastLevel false (Leak.levels false (readings past))
    outside.store.recordSheet.Numbered ->
    ¬ LastOpen outside.store.recordSheet ->
    (forall scene, scene ∈ past ++ s.scenes later -> scene.Undisturbed .leak) ->
    (instantOf s.now).inCalendar = true ->
    s.leak.pending = none ->
    ((forall scene, scene ∈ sinceEdge past -> scene.Stored .leak) ->
        (LastOpen s.outside.store.recordSheet ↔ level = true) ∧
          (s.leak.state.ticker?.isSome = true -> s.snapshot.leakPresent = true ->
            exists record, s.snapshot.latestLeak = some record ∧ record.isOpen = true ∧
              s.outside.store.recordSheet.latest = .ok (some record))) ∧
      (s.leak.state.ticker?.isSome = true ->
        s.snapshot.leakPresent = level ∧
          (Leak.edges level (Leak.levels level (readings (s.scenes later))) = [] ->
            (s.after later).outside.store.recordSheet = s.outside.store.recordSheet)) := by
  intro past s level hNumbered hClosed hUndisturbed hCalendar hFree
  have hOrder : InOrder s := inOrder_after (inOrder_assemble config now outside sink) hs
  have hPast (scene : Scene) (hMem : scene ∈ past) : scene.Undisturbed .leak :=
    hUndisturbed scene (List.mem_append_left _ hMem)
  have hLater (scene : Scene) (hMem : scene ∈ s.scenes later) : scene.Undisturbed .leak :=
    hUndisturbed scene (List.mem_append_right _ hMem)
  have hMending := (mending_after config now outside sink hs hNumbered hClosed hPast hCalendar).1
  have hRest := mends_rest hOrder hFree hMending
  constructor
  · intro hStored
    refine ⟨hRest.1 hStored, ?_⟩
    intro hTicker hPresent
    rcases hRest.2 hTicker with ⟨_, hLevel, hMended⟩
    have hWet : level = true := hLevel.symm.trans hPresent
    rcases (hRest.1 hStored).mpr hWet with ⟨record, hLatest, hOpen⟩
    have hPanel := (hMended hStored).panel hWet
    rw [hLatest] at hPanel
    exact ⟨record, (Except.ok.inj hPanel).symm, hOpen, hLatest⟩
  · intro hTicker
    rcases hRest.2 hTicker with ⟨hPrevious, hPresent, _⟩
    refine ⟨hPresent, ?_⟩
    intro hEdges
    rcases Option.isSome_iff_exists.mp hTicker with ⟨ticker, hSome⟩
    have hWaiting := (Watch.ticker?_eq_some.mp hSome).1
    have hDealt : DealtWith level s.leak.state := by
      unfold DealtWith
      rw [hWaiting]
      exact hPrevious
    exact dealtWith_after hOrder hDealt later hLater hEdges

/-!
## A record that could not be saved
-/

def unsaving (readings : List (Option Bool)) : Monitor :=
  assemble ⟨0, 5000, 1.0, 60, ""⟩ 0
    ⟨.script ⟨readings, [], [], .off⟩, .memory .empty,
      { Conditions.fair with
        fault := fun kind => if kind = .createRecord then some (.storage "disk full") else none }⟩
    none

def unsaved : List Happening :=
  [.start, .turn .leak, .turn .leak, .turn .leak, .turn .leak]

def repaired (readings : List (Option Bool)) (rest : List Happening) : List Happening :=
  unsaved ++
    .shift { ((unsaving readings).after unsaved).outside with conditions := .fair } :: rest

theorem repaired_undisturbed {readings : List (Option Bool)} {rest : List Happening}
    (hOwn : rest.all Happening.isOwn = true) (scene : Scene)
    (h : scene ∈ (unsaving readings).scenes (repaired readings rest)) :
    scene.Undisturbed .leak := by
  rw [repaired, scenes_append, scenes_cons, List.mem_append, List.mem_cons] at h
  rcases h with hFirst | rfl | hRest
  · exact undisturbed_own .leak (by decide) hFirst
  · intro outside hShift
    cases hShift
    rfl
  · exact undisturbed_own .leak hOwn hRest

def secondLeak : List Happening :=
  [ .wait 5000, .turn .leak, .turn .leak, .turn .leak, .wait 10000, .turn .leak, .turn .leak
  , .turn .leak, .turn .leak ]

def stillWet : List Happening :=
  [.wait 15000, .turn .leak, .turn .leak, .turn .leak]

theorem not_lastOpen_empty {t : Sheet Record} (h : t.rows.length = 0) : ¬ LastOpen t := by
  rintro ⟨record, hLatest, _⟩
  rw [Sheet.latest, List.length_eq_zero_iff.mp h] at hLatest
  cases hLatest

def leaking : Monitor :=
  (unsaving [some true, some false, some true]).after
    (repaired [some true, some false, some true] secondLeak)

theorem leaking_undisturbed (scene : Scene)
    (h : scene ∈ (unsaving [some true, some false, some true]).scenes
      (repaired [some true, some false, some true] secondLeak) ++ leaking.scenes stillWet) :
    scene.Undisturbed .leak := by
  rcases List.mem_append.mp h with hPast | hLater
  · exact repaired_undisturbed (by decide) scene hPast
  · exact undisturbed_own .leak (by decide) hLater

theorem leaking_stored (scene : Scene)
    (h : scene ∈ sinceEdge ((unsaving [some true, some false, some true]).scenes
      (repaired [some true, some false, some true] secondLeak))) : scene.Stored .leak := by
  have hTested : (sinceEdge ((unsaving [some true, some false, some true]).scenes
      (repaired [some true, some false, some true] secondLeak))).all (Scene.stores .leak) = true := by
    decide +kernel
  exact stored_of_stores (List.all_eq_true.mp hTested scene h)

theorem leak_recovery_law_secondLeak :
    (forall scene, scene ∈ (unsaving [some true, some false, some true]).scenes
        (repaired [some true, some false, some true] secondLeak) -> scene.Undisturbed .leak) ∧
      leaking.leak.pending = none ∧ LastOpen leaking.outside.store.recordSheet ∧
      (exists record, leaking.snapshot.latestLeak = some record ∧ record.isOpen = true) ∧
      (leaking.after stillWet).outside.store.recordSheet = leaking.outside.store.recordSheet := by
  have hFree : leaking.leak.pending = none := Option.isNone_iff_eq_none.mp (by decide +kernel)
  have hTicker : leaking.leak.state.ticker?.isSome = true := by decide +kernel
  have hPresent : leaking.snapshot.leakPresent = true := by decide +kernel
  have hEdges : Leak.edges true (Leak.levels true (readings (leaking.scenes stillWet))) = [] := by
    decide +kernel
  have hNumbered : (Store.memory .empty).recordSheet.Numbered := Sheet.empty_numbered 0
  rcases leak_recovery_law ⟨0, 5000, 1.0, 60, ""⟩ 0
      (unsaving [some true, some false, some true]).outside none
      (repaired [some true, some false, some true] secondLeak) stillWet hNumbered
      (not_lastOpen_empty rfl) leaking_undisturbed (by decide +kernel) hFree with
    ⟨hMended, hUnwritten⟩
  rcases hUnwritten hTicker with ⟨hLevel, hKept⟩
  have hWet := hLevel.symm.trans hPresent
  rcases hMended leaking_stored with ⟨hTable, hPanel⟩
  rcases hPanel hTicker hPresent with ⟨record, hLatest, hOpen, _⟩
  rw [hWet] at hKept
  refine ⟨?_, hFree, hTable.mpr hWet, ⟨record, hLatest, hOpen⟩, hKept hEdges⟩
  intro scene hMem
  exact leaking_undisturbed scene (List.mem_append_left _ hMem)

def forgotten : Monitor :=
  (unsaving [some true]).after
    (repaired [some true] [.wait 5000, .turn .leak, .turn .leak, .turn .leak])

/-- The store is empty at first, and at the tick every call would come through. -/
theorem forgotten_not_recorded :
    (unsaving [some true]).outside.store.recordSheet.rows.length = 0 ∧
      Leak.levels false (readings ((unsaving [some true]).scenes
          (repaired [some true] [.wait 5000, .turn .leak, .turn .leak, .turn .leak]))) =
        [(0, true), (5000, true)] ∧
      CallKind.all.all (fun kind => (forgotten.outside.conditions.fault kind).isNone) = true ∧
      forgotten.leak.state.ticker?.isSome = true ∧ forgotten.snapshot.leakPresent = true ∧
      ¬ LastOpen forgotten.outside.store.recordSheet := by
  have hEmpty : forgotten.outside.store.recordSheet.rows.length = 0 := by decide +kernel
  refine ⟨rfl, ?_, ?_, ?_, ?_, not_lastOpen_empty hEmpty⟩
  · decide +kernel
  · decide +kernel
  · decide +kernel
  · decide +kernel

end Monitor
end TubMonitor
