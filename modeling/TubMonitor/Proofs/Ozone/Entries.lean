import TubMonitor.Proofs.Ozone.Law
import TubMonitor.Proofs.Ozone.Owners

/-!
# The law of ozone rows

Whenever the ozone loop waits or has ended, the table holds one more row for each run that
was started, closed for the reason for which the run ended, and the panel shows the last
of them.  Whatever fails, no row is changed but for the run that it was added for.
-/

namespace TubMonitor
namespace Monitor

open Ozone (Shows Controller Entry Over Tale)
open Store (Row Sheet)
open Time (instantOf)

/-!
## Runs that were started
-/

def Decision.started? (d : Decision) : Option Nat :=
  match d.event with
  | .command (.start minutes) _ => some minutes
  | _ => none

/-- For how many minutes each run was started, in order. -/
def startedRuns (past : List Scene) : List Nat :=
  (past.filterMap Scene.decision?).filterMap Decision.started?

theorem tell_minutes (told : List Tale) (d : Decision) :
    (Ozone.tell told d.event).map Tale.minutes =
      told.map Tale.minutes ++ d.started?.toList := by
  have hFinish (status : String) :
      (told.map (Tale.finish status)).map Tale.minutes = told.map Tale.minutes := by
    rw [List.map_map]
    rfl
  unfold Decision.started?
  cases d.event with
  | reply reply => simp [Ozone.tell]
  | deadline => simp [Ozone.tell, hFinish]
  | cancel => simp [Ozone.tell, hFinish]
  | command command ticket =>
      cases command with
      | start minutes => simp only [Ozone.tell, List.map_append, hFinish]; rfl
      | stop => simp [Ozone.tell, hFinish]

theorem tales_minutes (past : List Scene) :
    (tales past).map Tale.minutes = startedRuns past := by
  unfold tales startedRuns
  induction past.filterMap Scene.decision? using List.reverseRecOn with
  | nil => rfl
  | append_singleton ds d ih =>
      rw [List.foldl_append, List.foldl_cons, List.foldl_nil, tell_minutes, ih,
        List.filterMap_append]
      rfl

/-!
## The law
-/

theorem mirroring_rest {base : List (Row Entry)} {past : List Scene} {s : Monitor}
    (hMirroring : Mirroring base past s)
    (hRest : s.ozone.state.isWaiting = true ∨ s.ozone.state.hasEnded = true) :
    exists (rows : List (Row Entry)) (entries : List Entry),
      s.outside.store.entrySheet.rows = base ++ rows ∧
        rows.map Row.value? = entries.map some ∧
        entries.map Entry.minutes = startedRuns past ∧
        (s.ozone.state.active? = none -> List.Forall₂ Over (tales past) entries) ∧
        (forall run, s.ozone.state.active? = some run ->
          exists told earlier last, tales past = told ++ [⟨run.minutes, none⟩] ∧
            entries = earlier ++ [last] ∧ List.Forall₂ Over told earlier ∧
            run.id = some last.id ∧ last.running = true ∧ last.stop = none ∧
            last.status = s.snapshot.ozone.status) ∧
        (Unreset past -> forall last, entries.getLast? = some last ->
          Shows s.snapshot.ozone last) := by
  rcases hMirroring with ⟨entries, hExtends, hMirrored⟩
  rcases hExtends.rows with ⟨rows, hRows, hValues⟩
  have hMinutes (told : List Tale) (earlier : List Entry) (hOver : List.Forall₂ Over told earlier) :
      earlier.map Entry.minutes = told.map Tale.minutes := by
    induction hOver with
    | nil => rfl
    | cons hFirst hRest ih => simp [hFirst.minutes, ih]
  refine ⟨rows, entries, hRows, hValues, ?_⟩
  rw [← tales_minutes]
  cases hActive : s.ozone.state.active? with
  | none =>
      have hIdle := Ozone.mirrored_idle hMirrored hRest hActive
      refine ⟨hMinutes _ _ hIdle.1, fun _ => hIdle.1, ?_, hIdle.2⟩
      intro run hRun
      cases hRun
  | some run =>
      rcases Ozone.mirrored_active hMirrored hActive with
        ⟨told, earlier, last, hTold, hEntries, hOver, hId, hLength, hRunning, hStop, hShows⟩
      refine ⟨?_, ?_, ?_, ?_⟩
      · rw [hTold, hEntries, List.map_append, List.map_append, hMinutes _ _ hOver]
        simp [hLength]
      · intro hNone
        cases hNone
      · intro other hOther
        cases hOther
        exact ⟨told, earlier, last, hTold, hEntries, hOver, hId, hRunning, hStop,
          hShows.status.symm⟩
      · intro _ other hLast
        rw [hEntries, List.getLast?_concat] at hLast
        cases hLast
        exact hShows

/--
The law, in every state that can be reached if nobody else writes in the table.  Where the
store does not fail the loop, and where the loop waits or has ended, the rows that have been
added tell of the runs that were started, and the panel shows the last of them until it is
cleared.  Wherever and whatever fails: the rows from before are as they were, and what happens
next leaves the rows, adds one for a run that begins or changes the last one that was given
to the loop, which is the one of the run that it has in its hands.
-/
theorem ozone_mirror_law (config : Config) (now : Nat) (outside : Outside)
    (sink : Option Notice.Sink) (hs : List Happening) :
    let past := (assemble config now outside sink).scenes hs
    let s := (assemble config now outside sink).after hs
    let before := outside.store.entrySheet.rows
    let rows := s.outside.store.entrySheet.rows
    outside.store.entrySheet.Numbered ->
    (forall scene, scene ∈ past -> scene.Undisturbed .ozone) ->
    ((forall scene, scene ∈ past -> scene.Stored .ozone) ->
      (instantOf s.now).inCalendar = true ->
      s.ozone.state.isWaiting = true ∨ s.ozone.state.hasEnded = true ->
      exists (added : List (Row Entry)) (entries : List Entry), rows = before ++ added ∧
        added.map Row.value? = entries.map some ∧
        entries.map Entry.minutes = startedRuns past ∧
        (s.ozone.state.active? = none -> List.Forall₂ Over (tales past) entries) ∧
        (forall run, s.ozone.state.active? = some run ->
          exists told earlier last, tales past = told ++ [⟨run.minutes, none⟩] ∧
            entries = earlier ++ [last] ∧ List.Forall₂ Over told earlier ∧
            run.id = some last.id ∧ last.running = true ∧ last.stop = none ∧
            last.status = s.snapshot.ozone.status) ∧
        ((forall scene, scene ∈ past -> scene.resets = false) ->
          forall last, entries.getLast? = some last -> Shows s.snapshot.ozone last)) ∧
      (exists added, rows = before ++ added) ∧
      (forall h, (Scene.mk s h).Undisturbed .ozone ->
        (s.happen h).outside.store.entrySheet.rows = rows ∨
          (exists (opening : Ozone.Opening) (row : Row Entry),
            s.ozone.state.phase = .recording opening ∧
            (s.happen h).outside.store.entrySheet.rows = rows ++ [row]) ∨
          (exists (entry : Entry) (change : Row Entry -> Row Entry),
            lastRow? past = some entry ∧ s.ozone.state.inHand? = some entry.id ∧
            (forall row, (change row).id = row.id) ∧
            (s.happen h).outside.store.entrySheet.rows =
              rows.map fun row => if row.id = entry.id then change row else row)) := by
  intro past s before rows hNumbered hUndisturbed
  have hOrder : InOrder s := inOrder_after (inOrder_assemble config now outside sink) hs
  have hOwned : Owned before past s :=
    owned_after config now outside sink hs hNumbered hUndisturbed
  rcases hOwned.rows with ⟨added, hAdded, hHand⟩
  refine ⟨?_, ⟨added, hAdded⟩, ?_⟩
  · intro hStored hCalendar hRest
    have hMirroring : Mirroring before past s :=
      mirroring_after config now outside sink hs hNumbered
        (fun scene hMem => ⟨hStored scene hMem, hUndisturbed scene hMem⟩) hCalendar
    exact mirroring_rest hMirroring hRest
  · intro h hNext
    have hChanges := changes_happen hOrder hOwned.numbered h hNext
    generalize (s.happen h).outside.store.entrySheet = after at hChanges
    cases hChanges with
    | same => exact Or.inl rfl
    | @opened opening row hPhase hId => exact Or.inr (Or.inl ⟨opening, row, hPhase, rfl⟩)
    | @amended id change hHeld hId =>
        rcases Option.map_eq_some_iff.mp (hHand id hHeld).1 with ⟨entry, hLast, hSame⟩
        subst hSame
        exact Or.inr (Or.inr ⟨entry, change, hLast, hHeld, hId, rfl⟩)

def twoRuns : List Happening :=
  [ .start, .turn .ozone, .turn .ozone, .send (.ozone (.start 5)), .turn .ozone, .turn .ozone
  , .turn .ozone, .send (.ozone (.start 7)), .turn .ozone, .turn .ozone, .turn .ozone
  , .turn .ozone, .turn .ozone, .turn .ozone ]

theorem ozone_mirror_law_twoRuns :
    (forall scene, scene ∈ simulated.scenes twoRuns ->
        scene.Undisturbed .ozone ∧ scene.Stored .ozone ∧ scene.resets = false) ∧
      (simulated.after twoRuns).ozone.state.isWaiting = true ∧
      (exists (added : List (Row Entry)) (first second : Entry),
        (simulated.after twoRuns).outside.store.entrySheet.rows = added ∧
          added.map Row.value? = [some first, some second] ∧
          Over ⟨5, some "Replaced by new run"⟩ first ∧ second.minutes = 7 ∧
          second.running = true ∧ Shows (simulated.after twoRuns).snapshot.ozone second) := by
  have hTested : (simulated.scenes twoRuns).all
      (fun scene => scene.stores .ozone && !scene.resets) = true := by decide +kernel
  have hScene : forall scene, scene ∈ simulated.scenes twoRuns ->
      scene.Undisturbed .ozone ∧ scene.Stored .ozone ∧ scene.resets = false := by
    intro scene hMem
    have hBoth := List.all_eq_true.mp hTested scene hMem
    rw [Bool.and_eq_true, Bool.not_eq_true'] at hBoth
    exact ⟨undisturbed_own .ozone (by decide) hMem, stored_of_stores hBoth.1, hBoth.2⟩
  have hWaiting : (simulated.after twoRuns).ozone.state.isWaiting = true := by decide +kernel
  have hTales : tales (simulated.scenes twoRuns) =
      [⟨5, some "Replaced by new run"⟩, ⟨7, none⟩] := by decide +kernel
  have hNumbered : (Store.memory .empty).entrySheet.Numbered := Sheet.empty_numbered 0
  rcases (ozone_mirror_law ⟨0, 0, 1.0, 60, ""⟩ 0 ⟨.tub .standard, .memory .empty, .fair⟩ none
      twoRuns hNumbered fun scene hMem => (hScene scene hMem).1).1
      (fun scene hMem => (hScene scene hMem).2.1) (by decide) (Or.inl hWaiting) with
    ⟨added, entries, hRows, hValues, hMinutes, _, hActive, hPanel⟩
  have hRun : exists run, (simulated.after twoRuns).ozone.state.active? = some run :=
    Option.isSome_iff_exists.mp (by decide +kernel)
  rcases hRun with ⟨run, hRun⟩
  rcases hActive run hRun with
    ⟨told, earlier, second, hTold, rfl, hOver, _, hRunning, _, _⟩
  have hShows := hPanel (fun scene hMem => (hScene scene hMem).2.2) second
    List.getLast?_concat
  have hSplit : [⟨5, some "Replaced by new run"⟩] ++ [⟨7, none⟩] = told ++ [⟨run.minutes, none⟩] :=
    hTales.symm.trans hTold
  rcases List.append_inj' hSplit rfl with ⟨rfl, hLast⟩
  rcases List.forall₂_cons_left_iff.mp hOver with ⟨first, rest, hFirst, hRest, rfl⟩
  cases List.forall₂_nil_left_iff.mp hRest
  have hStarted : startedRuns (simulated.scenes twoRuns) = [5, 7] := by decide +kernel
  have hBoth : [first.minutes, second.minutes] = [5, 7] := hMinutes.trans hStarted
  have hSecond : second.minutes = 7 := (List.cons.inj (List.cons.inj hBoth).2).1
  exact ⟨hScene, hWaiting, added, first, second, hRows, hValues, hFirst, hSecond, hRunning, hShows⟩

end Monitor
end TubMonitor
