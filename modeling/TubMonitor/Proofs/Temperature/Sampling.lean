import TubMonitor.Proofs.Temperature.Law
import TubMonitor.Proofs.Temperature.Readouts
import TubMonitor.Proofs.Temperature.Rows

/-!
# The law of sampling

Whatever fails, a tick reads the sensors once and tries once to save what could be read.  The
panel shows the readings of the last sample, whether or not they were saved, and the table has
a row for each sample that was.
-/

namespace TubMonitor
namespace Monitor

open Store (Holds Sheet Stocked)
open Temperature (Deed InHand Readout Sample Sampler Sampling callsFor lastReadout
  samplings stored)
open Time (instantOf)

/-!
## Calls
-/

def Call.isSampling : Call -> Bool
  | .sensors .temperatures => true
  | .store (.saveSample _ _) => true
  | _ => false

/-- The calls that belong to samples, whoever has made them, the first one first. -/
def samplingCalls (s : Monitor) : List (Nat × Call) :=
  (s.calls.filter fun entry => entry.2.isSampling).reverse

theorem isSampling_of_isOzone {call : Call} (h : call.isOzone = true) :
    call.isSampling = false := by
  cases call with
  | sensors request => cases request <;> first | rfl | cases h
  | store request => cases request <;> first | rfl | cases h

theorem isSampling_of_leak {w : Leak.Watch} {call : Call} (h : w.Expects (some call)) :
    call.isSampling = false := by
  cases h <;> rfl

theorem isSampling_of_pump {call : Call} (h : isPumpCall call = true) :
    call.isSampling = false := by
  cases call with
  | store request => cases h
  | sensors request => cases request <;> first | rfl | cases h

theorem samplingCalls_append {s next : Monitor} {made : List (Nat × Call)}
    (hCalls : next.calls = made ++ s.calls) :
    next.samplingCalls =
      s.samplingCalls ++ (made.filter fun entry => entry.2.isSampling).reverse := by
  simp [samplingCalls, hCalls]

theorem samplingCalls_foreign {s next : Monitor} {made : List (Nat × Call)}
    (hCalls : next.calls = made ++ s.calls)
    (hMade : forall entry, entry ∈ made -> entry.2.isSampling = false) :
    next.samplingCalls = s.samplingCalls := by
  have hNone : made.filter (fun entry => entry.2.isSampling) = [] := by
    rw [List.filter_eq_nil_iff]
    intro entry hEntry
    simp [hMade entry hEntry]
  rw [samplingCalls_append hCalls, hNone, List.reverse_nil, List.append_nil]

/-- A loop that makes at most one call makes none of these, if that one is none of them. -/
theorem samplingCalls_other {s next : Monitor} {call? : Option Call}
    (hCalls : next.calls = call?.toList.reverse.map (s.now, ·) ++ s.calls)
    (hOther : forall call, call? = some call -> call.isSampling = false) :
    next.samplingCalls = s.samplingCalls := by
  refine samplingCalls_foreign hCalls ?_
  intro entry hEntry
  cases call? with
  | none => cases hEntry
  | some call =>
      rw [List.mem_singleton.mp hEntry]
      exact hOther call rfl

theorem samplingCalls_move {s served : Monitor} {event : Temperature.Event} (hOrder : InOrder s)
    (hServes : TemperatureServes s event served) :
    (served.handTemperature event).samplingCalls =
      s.samplingCalls ++ event.call?.toList.map (s.now, ·) := by
  have hMade := Temperature.move_call (temperature_move hOrder hServes)
  rcases temperatureServes_eq hServes with ⟨_, _, rfl⟩
  rw [samplingCalls_append (handTemperature_calls ..), hMade]
  cases hCall : event.call? with
  | none => rfl
  | some call =>
      have hSampling : call.isSampling = true := by
        unfold Temperature.Event.call? at hCall
        split at hCall <;> cases hCall <;> rfl
      simp [hSampling, samplingCalls]

/-- Calls that belong to samples are made for the events that are handed to the loop. -/
theorem samplingCalls_happen {past : List Scene} {s : Monitor} (hOrder : InOrder s)
    (hCalls : s.samplingCalls = callsFor (samplerEvents past)) (h : Happening) :
    (s.happen h).samplingCalls = callsFor (samplerEvents (past ++ [⟨s, h⟩])) := by
  have hQuiet {next : Monitor} (hEvent : (Scene.mk s h).temperatureEvent? = none)
      (hSame : next.samplingCalls = s.samplingCalls) :
      next.samplingCalls = callsFor (samplerEvents (past ++ [⟨s, h⟩])) := by
    rw [samplerEvents_none past hEvent, hSame, hCalls]
  generalize hNext : s.happen h = next
  have hActs : Acts s h next := hNext ▸ acts s h
  cases hActs with
  | aside hAside =>
      rcases hAside.calls with ⟨made, hMore, hMade⟩
      exact hQuiet hAside.temperatureEvent
        (samplingCalls_foreign hMore fun entry hEntry => isSampling_of_pump (hMade entry hEntry))
  | ozone hEvent =>
      have hServes := ozoneEvent_serves hEvent
      have hMade := Ozone.Controller.move_calls hOrder.ozone.filed (ozone_move hOrder hServes)
      rcases ozoneServes_eq hServes with ⟨_, _, rfl⟩
      refine hQuiet rfl (samplingCalls_other (by rw [handOzone_calls, hMade]) ?_)
      exact fun call hCall => isSampling_of_isOzone (isOzone_of_ozone hCall)
  | leak hEvent =>
      have hServes := leakEvent_serves hEvent
      rcases Leak.Watch.move_asks (leak_move hOrder hServes) with ⟨call?, hExpects, hMade⟩
      rcases leakServes_eq hServes with ⟨_, rfl⟩
      refine hQuiet rfl (samplingCalls_other (by rw [handLeak_calls, hMade]) ?_)
      rintro call rfl
      exact isSampling_of_leak hExpects
  | @temperature event served hEvent =>
      have hScene : (Scene.mk s (.turn .temperature)).temperatureEvent? = some event := by
        simp [Scene.temperatureEvent?, hEvent]
      rw [samplerEvents_some past hScene, Temperature.callsFor_append,
        samplingCalls_move hOrder (temperatureEvent_serves hEvent), hCalls]
      cases hCall : event.call? <;> simp [callsFor, hCall]
  | start hFresh =>
      have hMore : s.start.2.calls =
          [(s.now, .store .latestRecord), (s.now, .store .latestEntry)] ++ s.calls :=
        start_calls hFresh
      exact hQuiet rfl (samplingCalls_foreign hMore (by simp [Call.isSampling]))
  | cancel => exact hQuiet rfl (by rw [samplingCalls, cancel_calls, samplingCalls])
  | join hCancelled hOver => exact hQuiet rfl rfl

/-!
## The invariant
-/

/-- What the samples so far have left on the panel and in the table, which held the base at
first. -/
structure Left (base : Sheet Sample) (past : List Scene) (s : Monitor) (taken : List Sampling) :
    Prop where
  readout : Unreset past -> s.temperature.state.readout = lastReadout taken
  faithful : forall x, x ∈ taken -> x.Faithful
  ordered : taken.Pairwise fun x y => x.saved ≤ y.saved
  earlier : forall x, x ∈ taken -> x.saved ≤ s.now
  stocked : (forall scene, scene ∈ past -> scene.Undisturbed .temperature) ->
    Stocked base s.outside.store.sampleSheet (stored taken)

structure Kept (base : Sheet Sample) (past : List Scene) (s : Monitor) (deeds : List Deed)
    (rest : List (Nat × Temperature.Event)) : Prop where
  events : samplerEvents past = deeds.flatMap Deed.events ++ rest
  inHand : InHand s.temperature.state.phase rest
  fresh : s.temperature.state.phase = .dormant -> deeds = []
  left : Left base past s (samplings deeds)

section

variable {base : Sheet Sample} {past : List Scene} {s next : Monitor} {deeds : List Deed}
  {taken : List Sampling} {rest : List (Nat × Temperature.Event)} {h : Happening}

theorem undisturbed_concat {source : Notice.Source} {scene : Scene}
    (h : forall other, other ∈ past ++ [scene] -> other.Undisturbed source) :
    (forall other, other ∈ past -> other.Undisturbed source) ∧ scene.Undisturbed source :=
  ⟨fun other hMem => h other (List.mem_append_left _ hMem),
    h scene (List.mem_append_right _ (List.mem_singleton_self _))⟩

theorem left_same (hLeft : Left base past s taken)
    (hReadout : Unreset (past ++ [⟨s, h⟩]) ->
      (s.happen h).temperature.state.readout = lastReadout taken)
    (hSheet : (Scene.mk s h).Undisturbed .temperature ->
      (s.happen h).outside.store.sampleSheet = s.outside.store.sampleSheet) :
    Left base (past ++ [⟨s, h⟩]) (s.happen h) taken := by
  refine ⟨hReadout, hLeft.faithful, hLeft.ordered, ?_, ?_⟩
  · intro x hMem
    exact Nat.le_trans (hLeft.earlier x hMem) (now_happen s h)
  · intro hUndisturbed
    rcases undisturbed_concat hUndisturbed with ⟨hPast, hLast⟩
    rw [hSheet hLast]
    exact hLeft.stocked hPast

theorem left_unsaved {event : Temperature.Event} (hOrder : InOrder s)
    (hLeft : Left base past s taken)
    (hScene : (Scene.mk s (.turn .temperature)).temperatureEvent? = some event)
    (hReadout : (s.happen (.turn .temperature)).temperature.state.readout =
      s.temperature.state.readout)
    (hUnsaved : forall room water, s.temperature.state.phase ≠ .saving room water) :
    Left base (past ++ [⟨s, .turn .temperature⟩]) (s.happen (.turn .temperature)) taken := by
  refine left_same hLeft ?_ (fun _ => samples_unsaved hOrder hScene hUnsaved)
  intro hUnreset
  rw [hReadout]
  exact hLeft.readout (unreset_concat hUnreset)

/-- The readout, the outcome and the row of a sample are of one moment. -/
theorem left_sampled {x : Sampling} (hOrder : InOrder s) (hLeft : Left base past s taken)
    (hSaved : x.saved = s.now)
    (hScene : (Scene.mk s (.turn .temperature)).temperatureEvent? =
      some (.reply (.store (.sample x.outcome))))
    (hPhase : s.temperature.state.phase =
      .saving x.readings.room.toOption x.readings.water.toOption)
    (hReadout : (s.happen (.turn .temperature)).temperature.state.readout = x.readout) :
    Left base (past ++ [⟨s, .turn .temperature⟩]) (s.happen (.turn .temperature))
      (taken ++ [x]) := by
  have hSaves := samples_saved hOrder hPhase hScene
  have hNow := now_happen s (.turn .temperature)
  constructor
  · intro _
    rw [hReadout, Temperature.lastReadout_concat]
  · intro y hY
    rcases List.mem_append.mp hY with hBefore | hLast
    · exact hLeft.faithful y hBefore
    · intro sample hOk
      rw [List.mem_singleton.mp hLast] at hOk ⊢
      rw [hSaved]
      exact Store.saves_same hSaves hOk
  · rw [List.pairwise_append]
    refine ⟨hLeft.ordered, List.pairwise_singleton .., ?_⟩
    intro y hBefore z hLast
    rw [List.mem_singleton.mp hLast, hSaved]
    exact hLeft.earlier y hBefore
  · intro y hY
    rcases List.mem_append.mp hY with hBefore | hLast
    · exact Nat.le_trans (hLeft.earlier y hBefore) hNow
    · rw [List.mem_singleton.mp hLast, hSaved]
      exact hNow
  · intro hUndisturbed
    rw [Temperature.stored_concat]
    exact Store.stocked_saves (hLeft.stocked (undisturbed_concat hUndisturbed).1) hSaves

theorem kept_move {event : Temperature.Event} {result : Sampler × List Effect}
    (hOrder : InOrder s) (hKept : Kept base past s deeds rest)
    (hMoves : TemperatureMoves s event result (s.happen (.turn .temperature))) :
    exists deeds rest,
      Kept base (past ++ [⟨s, .turn .temperature⟩]) (s.happen (.turn .temperature)) deeds
        rest := by
  rcases Temperature.move_furthers hMoves.move hKept.inHand with
    ⟨more, left, hFurthers, hInHand⟩
  have hEvents := Temperature.furthers_events hFurthers
  have hBegun := (Sampler.move_begun hMoves.move).2
  rw [← hMoves.state] at hFurthers hInHand hBegun
  refine ⟨deeds ++ more, left, ?_, hInHand, fun hDormant => absurd hDormant hBegun, ?_⟩
  · rw [samplerEvents_some past hMoves.scene, hKept.events, List.append_assoc, hEvents,
      List.flatMap_append, List.append_assoc]
  · rw [Temperature.samplings_append]
    cases hFurthers with
    | holds hReadout hUnsaved =>
        rw [Temperature.samplings_nil, List.append_nil]
        exact left_unsaved hOrder hKept.left hMoves.scene hReadout hUnsaved
    | serves command ticket hReadout hUnsaved =>
        rw [Temperature.samplings_served, List.append_nil]
        exact left_unsaved hOrder hKept.left hMoves.scene hReadout hUnsaved
    | samples x hSaved hPhase hReadout =>
        rw [Temperature.samplings_sampled]
        exact left_sampled hOrder hKept.left hSaved hMoves.scene hPhase hReadout

theorem kept_quiet (hOrder : InOrder s) (hKept : Kept base past s deeds rest)
    (hNext : s.happen h = next) (hEvent : (Scene.mk s h).temperatureEvent? = none)
    (hInHand : InHand next.temperature.state.phase rest)
    (hFresh : next.temperature.state.phase = .dormant -> deeds = [])
    (hReadout : Unreset (past ++ [⟨s, h⟩]) ->
      next.temperature.state.readout = lastReadout (samplings deeds)) :
    Kept base (past ++ [⟨s, h⟩]) next deeds rest := by
  subst hNext
  refine ⟨?_, hInHand, hFresh, left_same hKept.left hReadout ?_⟩
  · rw [samplerEvents_none past hEvent]
    exact hKept.events
  · exact fun hUndisturbed => samples_apart hOrder hUndisturbed hEvent

theorem kept_happen (hOrder : InOrder s) (hKept : Kept base past s deeds rest) (h : Happening) :
    exists deeds rest, Kept base (past ++ [⟨s, h⟩]) (s.happen h) deeds rest := by
  generalize hNext : s.happen h = next
  have hHappens : TemperatureHappens s h next := hNext ▸ temperature_happens hOrder h
  cases hHappens with
  | apart hApart =>
      refine ⟨deeds, rest, kept_quiet hOrder hKept hNext hApart.event ?_ ?_ ?_⟩
      all_goals rw [hApart.state]
      · exact hKept.inHand
      · exact hKept.fresh
      · exact fun hUnreset => hKept.left.readout (unreset_concat hUnreset)
  | start hFresh =>
      have hDormant := temperature_unbegun hOrder hFresh
      have hDeeds := hKept.fresh hDormant
      have hInHand := hKept.inHand
      rw [hDormant] at hInHand
      cases hInHand
      refine ⟨deeds, [], kept_quiet hOrder hKept hNext rfl ?_ (fun _ => hDeeds) ?_⟩
      all_goals rw [start_temperature_state hFresh]
      · exact Temperature.start_inHand ..
      · rw [hDeeds]
        exact fun _ => rfl
  | move hMoves =>
      subst hNext
      exact kept_move hOrder hKept hMoves
  | join hCancelled hOver =>
      -- What the panel shows is of no account from now on.
      refine ⟨deeds, rest, kept_quiet hOrder hKept hNext rfl hKept.inHand hKept.fresh ?_⟩
      intro hUnreset
      have hLast := hUnreset _ (List.mem_append_right _ (List.mem_singleton_self _))
      simp [Scene.resets, hCancelled, hOver] at hLast

end

theorem kept_after (config : Config) (now : Nat) (outside : Outside)
    (sink : Option Notice.Sink) (hs : List Happening) :
    exists deeds rest,
      Kept outside.store.sampleSheet ((assemble config now outside sink).scenes hs)
        ((assemble config now outside sink).after hs) deeds rest := by
  have hStart : Kept outside.store.sampleSheet [] (assemble config now outside sink) [] [] :=
    { events := rfl
      inHand := .dormant
      fresh := fun _ => rfl
      left :=
        { readout := fun _ => rfl
          faithful := fun _ hMem => absurd hMem List.not_mem_nil
          ordered := .nil
          earlier := fun _ hMem => absurd hMem List.not_mem_nil
          stocked := fun _ => Store.stocked_nil _ } }
  refine scenes_invariant (inOrder_assemble config now outside sink) (fun _ => True)
    (fun past s => exists deeds rest, Kept outside.store.sampleSheet past s deeds rest)
    ⟨[], [], hStart⟩ ?_ hs (fun _ _ => trivial)
  rintro past before h hOrder _ ⟨deeds, rest, hKept⟩
  exact kept_happen hOrder hKept h

theorem samplingCalls_after (config : Config) (now : Nat) (outside : Outside)
    (sink : Option Notice.Sink) (hs : List Happening) :
    ((assemble config now outside sink).after hs).samplingCalls =
      callsFor (samplerEvents ((assemble config now outside sink).scenes hs)) := by
  refine scenes_invariant (inOrder_assemble config now outside sink) (fun _ => True)
    (fun past s => s.samplingCalls = callsFor (samplerEvents past)) rfl ?_ hs (fun _ _ => trivial)
  intro past before h hOrder _ hCalls
  exact samplingCalls_happen hOrder hCalls h

/-!
## The law
-/

def Snapshot.readout (p : Snapshot) : Readout :=
  ⟨p.room, p.water, p.sampled⟩

/-- A command is sent, or a part of the monitor has its turn. -/
def Happening.isWork : Happening -> Bool
  | .send _ => true
  | .turn _ => true
  | _ => false

def Scene.Saves (scene : Scene) : Prop :=
  exists outcome, scene.temperatureEvent? = some (.reply (.store (.sample outcome)))

/-- Panel and table change with the answer to a sample only; no command changes them. -/
theorem unsaved_same {s : Monitor} {h : Happening} (hOrder : InOrder s) (hWork : h.isWork = true)
    (hUnsaved : ¬ (Scene.mk s h).Saves) :
    (s.happen h).snapshot.readout = s.snapshot.readout ∧
      (s.happen h).outside.store.sampleSheet = s.outside.store.sampleSheet := by
  generalize hNext : s.happen h = next
  have hHappens : TemperatureHappens s h next := hNext ▸ temperature_happens hOrder h
  cases hHappens with
  | apart hApart =>
      have hOwn : (Scene.mk s h).happening.isOwn = true := by
        cases h <;> first | rfl | cases hWork
      constructor
      · show next.temperature.state.readout = s.temperature.state.readout
        rw [hApart.state]
      · rw [← hNext]
        exact samples_apart hOrder (undisturbed_of_isOwn .temperature hOwn) hApart.event
  | start hFresh => cases hWork
  | move hMoves =>
      have hUnsaved := Temperature.move_unsaved hMoves.move fun outcome hEvent =>
        hUnsaved ⟨outcome, hEvent ▸ hMoves.scene⟩
      constructor
      · show next.temperature.state.readout = s.temperature.state.readout
        rw [hMoves.state]
        exact hUnsaved.1
      · rw [← hNext]
        exact samples_unsaved hOrder hMoves.scene hUnsaved.2
  | join hCancelled hOver => cases hWork

theorem stored_ordered {base : Sheet Sample} {past : List Scene} {s : Monitor}
    {taken : List Sampling} (hLeft : Left base past s taken) :
    (stored taken).Pairwise fun sample later => sample.taken ≤ later.taken := by
  have hTaken {x : Sampling} (hMem : x ∈ taken) {sample : Sample}
      (hOutcome : x.outcome.toOption = some sample) : sample.taken = instantOf x.saved := by
    cases hOk : x.outcome with
    | error fault => simp [hOk, Except.toOption] at hOutcome
    | ok given =>
        rw [hOk] at hOutcome
        cases hOutcome
        exact (hLeft.faithful x hMem sample hOk).2.2
  rw [stored, List.pairwise_filterMap]
  refine hLeft.ordered.imp_of_mem ?_
  intro x y hX hY hOrdered sample hSample later hLater
  rw [hTaken hX hSample, hTaken hY hLater]
  exact Time.instantOf_le hOrdered

/--
The law, in every state that can be reached.  Whatever the loop has been handed makes up the
commands that it has served, the samples that it has taken and what it has in hand.  Each tick
reads the sensors once and tries once to save what could be read.  The panel shows the
readings of the last sample with the instant at which it was over, until it is cleared when the
loops have been waited for.  If nobody else writes in the table, it has a row for each sample
that was saved.  Only the answer to a sample changes either of them.
-/
theorem sampling_law (config : Config) (now : Nat) (outside : Outside)
    (sink : Option Notice.Sink) (hs : List Happening) :
    let past := (assemble config now outside sink).scenes hs
    let s := (assemble config now outside sink).after hs
    let base := outside.store.sampleSheet
    exists deeds rest,
      samplerEvents past = deeds.flatMap Deed.events ++ rest ∧
        InHand s.temperature.state.phase rest ∧
        s.samplingCalls = (samplings deeds).flatMap Sampling.calls ++ callsFor rest ∧
        (Unreset past -> s.snapshot.readout = lastReadout (samplings deeds)) ∧
        (¬ Unreset past -> s.snapshot.readout = .blank) ∧
        (forall x sample, x ∈ samplings deeds -> x.outcome = .ok sample ->
          sample.room = x.readings.room.toOption ∧ sample.water = x.readings.water.toOption ∧
            sample.taken = instantOf x.saved) ∧
        (stored (samplings deeds)).Pairwise (fun sample later => sample.taken ≤ later.taken) ∧
        ((forall scene, scene ∈ past -> scene.Undisturbed .temperature) ->
          (exists rows, s.outside.store.sampleSheet.rows = base.rows ++ rows ∧
            List.Forall₂ Holds rows (stored (samplings deeds))) ∧
          (forall (k : Nat) (sample : Sample), (stored (samplings deeds))[k]? = some sample ->
            sample.id = base.lastId + k + 1)) ∧
        (forall scene, scene ∈ past -> scene.happening.isWork = true -> ¬ scene.Saves ->
          scene.after.snapshot.readout = scene.before.snapshot.readout ∧
            scene.after.outside.store.sampleSheet = scene.before.outside.store.sampleSheet) := by
  intro past s base
  rcases kept_after config now outside sink hs with ⟨deeds, rest, hKept⟩
  rcases tallied_after config now outside sink hs with ⟨_, _, hTallied⟩
  refine ⟨deeds, rest, hKept.events, hKept.inHand, ?_, hKept.left.readout, ?_, ?_,
    stored_ordered hKept.left, ?_, ?_⟩
  · rw [samplingCalls_after, hKept.events, Temperature.callsFor_append,
      Temperature.callsFor_deeds]
  · intro hReset
    rw [shut_blank (hTallied.reset.resolve_left hReset)]
    rfl
  · intro x sample hMem hOk
    exact hKept.left.faithful x hMem sample hOk
  · intro hUndisturbed
    have hStocked := hKept.left.stocked hUndisturbed
    exact ⟨hStocked.rows, hStocked.ids⟩
  · intro scene hMem hWork hUnsaved
    rcases mem_scenes hMem with ⟨first, later, _, hBefore⟩
    have hOrder : InOrder scene.before := by
      rw [hBefore]
      exact inOrder_after (inOrder_assemble config now outside sink) first
    exact unsaved_same hOrder hWork hUnsaved

/-!
## A sample that is lost and one that is not
-/

def fullDisk : Outside :=
  { bank := .script ⟨[], [some 72.0], [some 60.0], .off⟩
    store := .memory .empty
    conditions :=
      { Conditions.fair with
        fault := fun kind => if kind = .saveSample then some (.storage "disk full") else none } }

def roomless : Outside :=
  ⟨.script ⟨[], [none], [some 61.0], .off⟩, .memory .empty, .fair⟩

def recording : Monitor :=
  assemble ⟨5000, 0, 1.0, 60, ""⟩ 0 fullDisk none

def lostSample : List Happening :=
  [.start, .turn .temperature, .turn .temperature, .turn .temperature]

def savedSample : List Happening :=
  [ .send (.target none), .turn .temperature, .wait 5000, .turn .temperature, .turn .temperature
  , .turn .temperature ]

def twoSamples : List Happening :=
  lostSample ++ .shift roomless :: savedSample

def lostOne : Sampling :=
  ⟨0, 0, ⟨.ok 72.0, .ok 60.0⟩, 0, .error (.storage "disk full")⟩

def savedOne : Sampling :=
  { begun := 5000
    read := 5000
    readings := ⟨.error (.sensor "room" "scripted failure"), .ok 61.0⟩
    saved := 5000
    outcome := .ok ⟨1, none, some 61.0, instantOf 5000⟩ }

theorem twoSamples_undisturbed {scene : Scene} (h : scene ∈ recording.scenes twoSamples) :
    scene.Undisturbed .temperature := by
  rw [twoSamples, scenes_append, scenes_cons, List.mem_append, List.mem_cons] at h
  rcases h with hFirst | rfl | hRest
  · exact undisturbed_own .temperature (by decide) hFirst
  · intro outside hShift
    cases hShift
    rfl
  · exact undisturbed_own .temperature (by decide) hRest

theorem sampling_law_twoSamples :
    (forall scene, scene ∈ recording.scenes twoSamples -> scene.Undisturbed .temperature) ∧
      Unreset (recording.scenes twoSamples) ∧
      (recording.after lostSample).snapshot.readout =
        ⟨some 72.0, some 60.0, some (instantOf 0)⟩ ∧
      (recording.after lostSample).outside.store.sampleSheet.rows = [] ∧
      (recording.after twoSamples).snapshot.readout =
        ⟨none, some 61.0, some (instantOf 5000)⟩ ∧
      (recording.after twoSamples).samplingCalls =
        [ (0, .sensors .temperatures), (0, .store (.saveSample (some 72.0) (some 60.0)))
        , (5000, .sensors .temperatures), (5000, .store (.saveSample none (some 61.0))) ] ∧
      exists row, (recording.after twoSamples).outside.store.sampleSheet.rows = [row] ∧
        Holds row ⟨1, none, some 61.0, instantOf 5000⟩ := by
  have hUnreset : Unreset (recording.scenes twoSamples) := by
    have hTested : (recording.scenes twoSamples).all (fun scene => !scene.resets) = true := by
      decide
    simpa [Unreset] using hTested
  rcases sampling_law ⟨5000, 0, 1.0, 60, ""⟩ 0 fullDisk none twoSamples with
    ⟨deeds, rest, hEvents, hInHand, hCalls, hShown, _, _, _, hRows, _⟩
  have hDeeds : deeds = [.sampled lostOne, .served 0 none 0, .sampled savedOne] ∧
      rest = [] := by
    apply Temperature.deeds_unique hInHand .waiting
    rw [← hEvents]
    rfl
  rcases hDeeds with ⟨rfl, rfl⟩
  rcases (hRows fun _ => twoSamples_undisturbed).1 with ⟨rows, hTable, hHolds⟩
  cases hHolds with
  | cons hRow hRest =>
      cases hRest
      exact ⟨fun _ => twoSamples_undisturbed, hUnreset, rfl, rfl, hShown hUnreset, hCalls, _,
        hTable, hRow⟩

end Monitor
end TubMonitor
