import TubMonitor.Proofs.Leak.Intervals

/-!
# The law of leak records

Whenever the leak loop rests, the table holds one more record for each leak that has been
sensed, opened when it was and cleared when it was over; the pump has been switched off at
each wet reading, and the messages are those of the pump, of the leaks and of their ends.
What was in the table before stays as it was, also a record that was left open.
-/

namespace TubMonitor
namespace Monitor

open Leak (Phased Record Watch)
open Store (Row Sheet)
open Time (instantOf)

section

variable {base : List (Row Record)} {past : List Scene} {s : Monitor}

theorem watched_happen (hOrder : InOrder s) (hWatched : Watched base past s) (h : Happening)
    (hStored : (Scene.mk s h).Stored .leak) (hUndisturbed : (Scene.mk s h).Undisturbed .leak)
    (hCalendar : (instantOf s.now).inCalendar = true) :
    Watched base (past ++ [⟨s, h⟩]) (s.happen h) := by
  generalize hNext : s.happen h = next
  have hHappens : LeakHappens s h next := hNext ▸ leak_happens hOrder h
  cases hHappens with
  | apart hApart => exact watched_apart hWatched hApart hUndisturbed
  | start hFresh => exact watched_start hOrder hWatched hFresh
  | move hMoves => exact watched_move hOrder hWatched hStored hCalendar hMoves
  | join hCancelled hOver => exact watched_join hOrder hWatched hOver

end

theorem watched_after (config : Config) (now : Nat) (outside : Outside)
    (sink : Option Notice.Sink) (hs : List Happening)
    (hNumbered : outside.store.recordSheet.Numbered)
    (hLeft : forall scene, scene ∈ (assemble config now outside sink).scenes hs ->
      scene.Stored .leak ∧ scene.Undisturbed .leak)
    (hCalendar : (instantOf ((assemble config now outside sink).after hs).now).inCalendar = true) :
    Watched outside.store.recordSheet.rows ((assemble config now outside sink).scenes hs)
      ((assemble config now outside sink).after hs) := by
  have hStart : Watched outside.store.recordSheet.rows [] (assemble config now outside sink) :=
    ⟨[], Sheet.extends_self hNumbered, ⟨Leak.Recorded.dry now, rfl, rfl⟩, rfl, rfl⟩
  refine scenes_invariant (inOrder_assemble config now outside sink)
    (fun scene => (scene.Stored .leak ∧ scene.Undisturbed .leak) ∧
      (instantOf scene.before.now).inCalendar = true)
    (Watched outside.store.recordSheet.rows) hStart ?_ hs ?_
  · intro past before h hOrder hAllowed hWatched
    exact watched_happen hOrder hWatched h hAllowed.1.1 hAllowed.1.2 hAllowed.2
  · intro scene hMem
    exact ⟨hLeft scene hMem, inCalendar_scenes hCalendar hMem⟩

/-!
## Switching the pump off
-/

/-- When the leak loop has switched the pump off in a scene. -/
def Scene.pumpOffs (scene : Scene) : List Nat :=
  ((callsOf (scene.effects .leak)).filter (· == .sensors (.switch .pump false))).map
    fun _ => scene.before.now

def pumpOffs (past : List Scene) : List Nat :=
  past.flatMap Scene.pumpOffs

/-- When the detector was read and the reading was wet. -/
def wetReading? : Nat × Except Fault Bool -> Option Nat
  | (moment, .ok true) => some moment
  | _ => none

theorem asks_pumpOff {result : Watch × List Effect} (h : Watch.Asks result) :
    (callsOf result.2).filter (· == .sensors (.switch .pump false)) =
      if result.1.phase = .halting then [.sensors (.switch .pump false)] else [] := by
  rcases h with ⟨call?, hExpects, hCalls⟩
  rw [hCalls]
  cases hExpects with
  | halting hPhase => simp [hPhase]
  | _ => simp [*]

theorem settle_halting (w : Watch) (now : Nat) : (w.settle now).1.phase ≠ .halting := by
  rcases Leak.settle_cases w now with ⟨_, _, _, _, hPhase | hPhase⟩
  · simp [hPhase]
  · simp [hPhase]

theorem follow_halting (w : Watch) (now : Nat) : (w.follow now).1.phase ≠ .halting := by
  simp only [Watch.follow]
  split
  · exact Leak.Phase.noConfusion
  · exact Leak.Phase.noConfusion
  · exact settle_halting w now

theorem observe_halting (w : Watch) (now : Nat) (present : Bool) :
    (w.observe now present).1.phase = .halting ↔ present = true := by
  cases present with
  | true => exact iff_of_true rfl rfl
  | false => exact iff_of_false (follow_halting _ now) Bool.false_ne_true

/-- The pump is to be switched off after a wet reading and after nothing else. -/
theorem move_halting {now : Nat} {w : Watch} {event : Leak.Event} {result : Watch × List Effect}
    (h : Watch.Move now w event result) :
    result.1.phase = .halting ↔ event = .reply (.sensors (.level (.ok true))) := by
  cases h with
  | seeded outcome hPhase =>
      rw [observe_halting]
      rcases outcome with fault | _ | _ <;> simp [Except.toOption]
  | halted outcome hPhase => exact iff_of_false (follow_halting w now) (by simp)
  | recorded outcome hPhase => exact iff_of_false (settle_halting _ now) (by simp)
  | unmatched outcome hPhase => exact iff_of_false (settle_halting w now) (by simp)
  | cleared record hPhase => exact iff_of_false (settle_halting _ now) (by simp)
  | notCleared fault hPhase => exact iff_of_false (settle_halting w now) (by simp)
  | polled present hPhase =>
      rw [observe_halting]
      cases present <;> simp
  | _ => exact iff_of_false (by simp) (by simp)

theorem scene_pumpOffs {s : Monitor} {h : Happening} (hOrder : InOrder s) :
    (Scene.mk s h).pumpOffs = ((Scene.mk s h).reading?.bind wetReading?).toList := by
  have hHappens := leak_happens hOrder h
  generalize s.happen h = next at hHappens
  cases hHappens with
  | apart hApart =>
      simp [Scene.pumpOffs, hApart.effects, Scene.reading?, Scene.sensed?, Scene.reply?,
        hApart.event]
  | start hFresh =>
      simp [Scene.pumpOffs, Scene.effects, hFresh, Watch.start, Scene.reading?, Scene.sensed?,
        Scene.reply?, Scene.leakEvent?]
  | @move event result served next hMoves =>
      have hPump := asks_pumpOff (Watch.move_asks hMoves.move)
      have hHalting := move_halting hMoves.move
      unfold Scene.pumpOffs Scene.reading? Scene.sensed? Scene.reply?
      rw [hMoves.effects, hPump, hMoves.scene]
      by_cases hWet : event = .reply (.sensors (.level (.ok true)))
      · rw [if_pos (hHalting.mpr hWet), hWet]
        rfl
      · rw [if_neg (mt hHalting.mp hWet)]
        cases event with
        | reply reply =>
            rcases reply with (_ | outcome | _) | _
            · rfl
            · rcases outcome with fault | _ | _
              · rfl
              · rfl
              · exact absurd rfl hWet
            · rfl
            · rfl
        | _ => rfl
  | join hCancelled hOver => rfl

/-- The pump is switched off once at each wet reading and at no other time. -/
theorem pumpOffs_eq {s : Monitor} (hOrder : InOrder s) (hs : List Happening) :
    pumpOffs (s.scenes hs) = (readings (s.scenes hs)).filterMap wetReading? := by
  induction hs generalizing s with
  | nil => rfl
  | cons h rest ih =>
      have hScene := scene_pumpOffs (h := h) hOrder
      have hRest := ih (inOrder_happen hOrder h)
      unfold pumpOffs readings at hRest ⊢
      rw [List.filterMap_filterMap] at hRest ⊢
      rw [scenes_cons, List.flatMap_cons, hScene, hRest, List.filterMap_cons]
      cases (Scene.mk s h).reading?.bind wetReading? <;> rfl

/-!
## The law
-/

theorem phased_rest {s : Monitor} {past : List Scene} {records : List Record}
    (hOrder : InOrder s) (hFree : s.leak.pending = none)
    (hPhased : Phased (history past) s.now s.leak.state (s.leak.pending.map Pending.call)
      s.outside.store.recordSheet records) :
    Leak.Settled (history past) s.now records ∧
      (s.leak.state.ticker?.isSome = true ->
        s.leak.state.present = (history past).level ∧
          s.outside.store.recordSheet.latest = .ok s.leak.state.latest) := by
  have hExpects := hOrder.leak.expects
  rw [hFree] at hExpects
  generalize hNone : Option.map Pending.call none = call? at hExpects
  unfold Phased at hPhased
  cases hExpects with
  | dormant hPhase =>
      rw [hPhase] at hPhased
      exact ⟨hPhased.1, fun hTicker => by simp [Watch.ticker?, hPhase] at hTicker⟩
  | waiting hPhase hTicker =>
      rw [hPhase] at hPhased
      exact ⟨hPhased.1, fun _ => ⟨hPhased.2.2.1, hPhased.2.2.2⟩⟩
  | ended hPhase | failed hPhase =>
      rw [hPhase] at hPhased
      exact ⟨hPhased, fun hTicker => by simp [Watch.ticker?, hPhase] at hTicker⟩
  | _ => cases hNone

/--
The law, wherever the leak loop has no call under way, for every course of events in which
its store does not fail it and nobody else writes in its table.  The records that have been
added are told in order, each with the leak that it is of; the panel shows the level and the
latest record whenever the loop waits for a tick.
-/
theorem leak_interval_law (config : Config) (now : Nat) (outside : Outside)
    (sink : Option Notice.Sink) (hs : List Happening) :
    let past := (assemble config now outside sink).scenes hs
    let s := (assemble config now outside sink).after hs
    let v := Leak.levels false (readings past)
    let rises := Leak.turnings true (Leak.edges false v)
    let falls := Leak.turnings false (Leak.edges false v)
    outside.store.recordSheet.Numbered ->
    (forall scene, scene ∈ past -> scene.Stored .leak ∧ scene.Undisturbed .leak) ->
    (instantOf s.now).inCalendar = true ->
    s.leak.pending = none ->
    (exists (rows : List (Row Record)) (records : List Record),
      s.outside.store.recordSheet.rows = outside.store.recordSheet.rows ++ rows ∧
        rows.map Row.value? = records.map some ∧
        records.length = rises.length ∧
        (forall k record, records[k]? = some record ->
          exists rise, rises[k]? = some rise ∧
            Leak.Spans rise falls[k]? rises[k + 1]? record) ∧
        (forall k record, records[k]? = some record ->
          (record.isOpen = true ↔ k + 1 = records.length ∧ Leak.lastLevel false v = true))) ∧
      pumpOffs past = (readings past).filterMap wetReading? ∧
      leakNotes past = (Leak.told (past.filterMap Scene.sensed?)).texts ∧
      (s.leak.state.ticker?.isSome = true ->
        s.snapshot.leakPresent = Leak.lastLevel false v ∧
          s.outside.store.recordSheet.latest = .ok s.snapshot.latestLeak) := by
  intro past s v rises falls hNumbered hLeft hCalendar hFree
  have hStart : InOrder (assemble config now outside sink) :=
    inOrder_assemble config now outside sink
  have hOrder : InOrder s := inOrder_after hStart hs
  have hPump : pumpOffs past = (readings past).filterMap wetReading? := pumpOffs_eq hStart hs
  rcases watched_after config now outside sink hs hNumbered hLeft hCalendar with
    ⟨records, hExtends, hPhased⟩
  have hRest := phased_rest hOrder hFree hPhased
  have hAccounts := Leak.recorded_accounts hRest.1.recorded
  rcases hExtends.rows with ⟨rows, hRows, hValues⟩
  have hOpen (k : Nat) (record : Record) := Leak.accounts_open hAccounts k record
  exact ⟨⟨rows, records, hRows, hValues, hAccounts.rises.symm, hAccounts.spans, hOpen⟩, hPump,
    hRest.1.notes.symm, hRest.2⟩

def dripping : Monitor :=
  assemble ⟨0, 5000, 1.0, 60, ""⟩ 0
    ⟨.script ⟨[some true, some false], [], [], .off⟩, .memory .empty, .fair⟩ none

def oneLeak : List Happening :=
  [ .start, .turn .leak, .turn .leak, .turn .leak, .turn .leak, .wait 5000, .turn .leak
  , .turn .leak, .turn .leak, .turn .leak ]

theorem leak_interval_law_oneLeak :
    (forall scene, scene ∈ dripping.scenes oneLeak ->
        scene.Stored .leak ∧ scene.Undisturbed .leak) ∧
      (dripping.after oneLeak).leak.pending = none ∧
      Leak.levels false (readings (dripping.scenes oneLeak)) = [(0, true), (5000, false)] ∧
      (exists (rows : List (Row Record)) (record : Record),
        (dripping.after oneLeak).outside.store.recordSheet.rows = rows ∧
          rows.map Row.value? = [some record] ∧ Leak.Spans 0 (some 5000) none record) ∧
      pumpOffs (dripping.scenes oneLeak) = [0] ∧
      leakNotes (dripping.scenes oneLeak) = ["Leak detected! Pump turned off.", "Leak cleared."] ∧
      (dripping.after oneLeak).snapshot.leakPresent = false := by
  have hLeft (scene : Scene) (hMem : scene ∈ dripping.scenes oneLeak) :
      scene.Stored .leak ∧ scene.Undisturbed .leak :=
    stored_own .leak (by decide) (by decide) hMem
  have hFree : (dripping.after oneLeak).leak.pending = none := by decide
  have hLevels : Leak.levels false (readings (dripping.scenes oneLeak)) =
      [(0, true), (5000, false)] := by decide
  have hNumbered : (Store.memory .empty).recordSheet.Numbered := Sheet.empty_numbered 0
  have hLaw := leak_interval_law ⟨0, 5000, 1.0, 60, ""⟩ 0
    ⟨.script ⟨[some true, some false], [], [], .off⟩, .memory .empty, .fair⟩ none oneLeak
    hNumbered hLeft (by decide) hFree
  change Leak.levels false (readings (dripping.scenes oneLeak)) = _ at hLevels
  have hRises : Leak.turnings true (Leak.edges false [(0, true), (5000, false)]) = [0] := rfl
  have hFalls : Leak.turnings false (Leak.edges false [(0, true), (5000, false)]) = [5000] := rfl
  unfold dripping at hLevels
  rw [hLevels, hRises, hFalls] at hLaw
  rcases hLaw with ⟨⟨rows, records, hRows, hValues, hLength, hSpans, _⟩, hPump, hNotes, hPanel⟩
  rcases List.length_eq_one_iff.mp hLength with ⟨record, rfl⟩
  rcases hSpans 0 record rfl with ⟨rise, hRise, hSpan⟩
  cases hRise
  have hWet : (readings (dripping.scenes oneLeak)).filterMap wetReading? = [0] := by decide
  have hTold : (Leak.told ((dripping.scenes oneLeak).filterMap Scene.sensed?)).texts =
      ["Leak detected! Pump turned off.", "Leak cleared."] := by decide
  exact ⟨hLeft, hFree, hLevels, ⟨rows, record, hRows, hValues, hSpan⟩, hPump.trans hWet,
    hNotes.trans hTold, (hPanel (by decide)).1⟩

end Monitor
end TubMonitor
