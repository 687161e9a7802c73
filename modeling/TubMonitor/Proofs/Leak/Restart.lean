import TubMonitor.Proofs.Leak.Law

/-!
# Records that were left open

A leak that is there when the monitor begins counts as new, so a record that was left open
by an earlier session stays open for good.  Of the records that a session adds itself no
more than one is open at any moment.
-/

namespace TubMonitor

namespace Leak

theorem recorded_open {now : Nat} {wet : Bool} {edges : List (Nat × Bool)}
    {records : List Record} (h : Recorded now wet edges records) :
    (records.filter Record.isOpen).length = wet.toNat := by
  induction h with
  | dry now => rfl
  | opened hBefore hOpen hFrom hTo ih =>
      have hNone : (_ : List Record).filter Record.isOpen = [] := List.length_eq_zero_iff.mp ih
      simp [hNone, Record.isOpen, hOpen]
  | @cleared now moment edges records record stop hBefore hFrom hTo ih =>
      rcases recorded_wet hBefore with ⟨earlier, last, hSplit, hOpen⟩
      have hLast : record = last := by
        have hBoth := (List.append_inj' hSplit rfl).2
        simpa using hBoth
      have hOne : (records.filter Record.isOpen).length + 1 = 1 := by
        simpa [Record.isOpen, hLast, hOpen] using ih
      simpa [Record.isOpen] using hOne

/-- However much is owed, the records are those of some edges. -/
theorem phased_records {h : History} {now : Nat} {w : Watch} {call? : Option Monitor.Call}
    {t : Store.Sheet Record} {records : List Record} (hPhased : Phased h now w call? t records) :
    exists moment wet edges, Recorded moment wet edges records := by
  unfold Phased at hPhased
  cases hPhase : w.phase with
  | dormant | loading | seeding | waiting | polling =>
      rw [hPhase] at hPhased
      exact ⟨_, _, _, hPhased.1.recorded⟩
  | ended | failed =>
      rw [hPhase] at hPhased
      exact ⟨_, _, _, hPhased.recorded⟩
  | halting =>
      rw [hPhase] at hPhased
      rcases hPhased with ⟨_, _, ⟨_, _, hSettled⟩ | ⟨_, _, _, _, hOwing⟩⟩
      · exact ⟨_, _, _, hSettled.recorded⟩
      · rcases hOwing.edges with ⟨_, _, hRecorded⟩
        exact ⟨_, _, _, hRecorded⟩
  | recording =>
      rw [hPhase] at hPhased
      rcases hPhased with ⟨_, _, _, _, _, _, _, hOwing⟩
      rcases hOwing.edges with ⟨_, _, hRecorded⟩
      exact ⟨_, _, _, hRecorded⟩
  | recalling =>
      rw [hPhase] at hPhased
      rcases hPhased with ⟨_, _, _, _, hOwing⟩
      rcases hOwing.edges with ⟨_, _, hRecorded⟩
      exact ⟨_, _, _, hRecorded⟩
  | closing =>
      rw [hPhase] at hPhased
      rcases hPhased with ⟨_, _, _, _, _, _, _, _, hOwing⟩
      rcases hOwing.edges with ⟨_, _, hRecorded⟩
      exact ⟨_, _, _, hRecorded⟩

end Leak

namespace Monitor

open Leak (Record)
open Store (Row Sheet)
open Time (instantOf)

def openRecords (rows : List (Row Record)) : List Record :=
  (rows.filterMap Row.value?).filter Record.isOpen

theorem openRecords_append (rows later : List (Row Record)) :
    openRecords (rows ++ later) = openRecords rows ++ openRecords later := by
  simp [openRecords]

theorem openRecords_values {rows : List (Row Record)} {records : List Record}
    (h : rows.map Row.value? = records.map some) :
    openRecords rows = records.filter Record.isOpen := by
  have hRead : rows.filterMap Row.value? = records := by
    have hIds := congrArg (List.filterMap id) h
    simpa [List.filterMap_map] using hIds
  rw [openRecords, hRead]

/--
At every moment of a session whose store does not fail the leak loop, no more than one of
the records that the session has added is open.  The rows from before are as they were, so
all that was open among them still is, and nothing else.
-/
theorem single_leak_law (config : Config) (now : Nat) (outside : Outside)
    (sink : Option Notice.Sink) (hs : List Happening) :
    let past := (assemble config now outside sink).scenes hs
    let s := (assemble config now outside sink).after hs
    let before := outside.store.recordSheet.rows
    outside.store.recordSheet.Numbered ->
    (forall scene, scene ∈ past -> scene.Stored .leak ∧ scene.Undisturbed .leak) ->
    (instantOf s.now).inCalendar = true ->
    exists added, s.outside.store.recordSheet.rows = before ++ added ∧
      (openRecords added).length ≤ 1 ∧
      openRecords s.outside.store.recordSheet.rows = openRecords before ++ openRecords added := by
  intro past s before hNumbered hLeft hCalendar
  rcases watched_after config now outside sink hs hNumbered hLeft hCalendar with
    ⟨records, hExtends, hPhased⟩
  rcases hExtends.rows with ⟨added, hRows, hValues⟩
  rcases Leak.phased_records hPhased with ⟨moment, wet, edges, hRecorded⟩
  have hCount := Leak.recorded_open hRecorded
  refine ⟨added, hRows, ?_, ?_⟩
  · rw [openRecords_values hValues, hCount]
    exact Bool.toNat_le wet
  · show openRecords ((assemble config now outside sink).after hs).outside.store.recordSheet.rows = _
    rw [hRows, openRecords_append]

def interrupted : Monitor :=
  assemble ⟨0, 5000, 1.0, 60, ""⟩ 5000
    ⟨.script ⟨[some true], [], [], .off⟩,
      .memory { Store.Memory.empty with records := [⟨1, instantOf 0, none⟩] }, .fair⟩ none

def relapse : List Happening :=
  [.start, .turn .leak, .turn .leak, .turn .leak, .turn .leak]

theorem relapse_stored (scene : Scene) (h : scene ∈ interrupted.scenes relapse) :
    scene.Stored .leak ∧ scene.Undisturbed .leak :=
  stored_own .leak (by decide) (by decide) h

theorem interrupted_numbered : interrupted.outside.store.recordSheet.Numbered :=
  ⟨List.pairwise_singleton .., fun id hMem => by
    rw [List.mem_singleton.mp hMem]
    decide⟩

theorem single_leak_law_relapse :
    interrupted.outside.store.recordSheet.Numbered ∧
      (forall scene, scene ∈ interrupted.scenes relapse ->
        scene.Stored .leak ∧ scene.Undisturbed .leak) ∧
      exists added, (interrupted.after relapse).outside.store.recordSheet.rows =
          interrupted.outside.store.recordSheet.rows ++ added ∧ (openRecords added).length ≤ 1 := by
  rcases single_leak_law ⟨0, 5000, 1.0, 60, ""⟩ 5000
      ⟨.script ⟨[some true], [], [], .off⟩,
        .memory { Store.Memory.empty with records := [⟨1, instantOf 0, none⟩] }, .fair⟩ none relapse
      interrupted_numbered relapse_stored (by decide) with ⟨added, hRows, hOne, _⟩
  exact ⟨interrupted_numbered, relapse_stored, added, hRows, hOne⟩

/-- No call fails, there is one open record at first, the latest one, and in the end there are two. -/
theorem open_after_relapse :
    (interrupted.outside.store.recordSheet.rows.filterMap Row.value?) = [⟨1, instantOf 0, none⟩] ∧
      (interrupted.scenes relapse).all (fun scene => CallKind.all.all fun kind =>
        (scene.before.outside.conditions.fault kind).isNone) = true ∧
      openRecords (interrupted.after relapse).outside.store.recordSheet.rows =
        [⟨1, instantOf 0, none⟩, ⟨2, instantOf 5000, none⟩] ∧
      ¬ (openRecords (interrupted.after relapse).outside.store.recordSheet.rows).length ≤ 1 := by
  decide

end Monitor
end TubMonitor
