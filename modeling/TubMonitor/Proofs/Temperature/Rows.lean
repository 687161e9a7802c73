import TubMonitor.Proofs.Store.Undisturbed
import TubMonitor.Proofs.Temperature.Samples
import TubMonitor.Proofs.Temperature.Scenes

/-!
# The table of samples

A sample that is saved comes last in its table, under the next id and with the instant at which
the store is reached; a save that fails leaves the table as it is.  Nothing else that the monitor
does touches it.
-/

namespace TubMonitor

/-!
## Rows
-/

namespace Store

open Temperature (Sample)

/-- The row is the sample itself, or its cells under its id. -/
inductive Holds : Row Sample -> Sample -> Prop where
  | kept (sample : Sample) : Holds (.kept sample) sample
  | cells (sample : Sample) :
      Holds (.cells sample.id (Database.sampleCells sample.room sample.water sample.taken)) sample

def sampleSheet : Store -> Sheet Sample
  | .memory m => .ofMemory m.samples
  | .database d => .ofTable d.samples

theorem sampleSheet_only {s t : Store} (h : s.only .temperature = t.only .temperature) :
    s.sampleSheet = t.sampleSheet := by
  have hOwn (s : Store) : (s.only .temperature).sampleSheet = s.sampleSheet := by
    cases s <;> rfl
  rw [← hOwn s, h, hOwn t]

inductive Saves (room water : Option Float) (now : Time.Instant) (t : Sheet Sample) :
    Except Fault Sample -> Sheet Sample -> Prop where
  | stored {row : Row Sample} (hRow : Holds row ⟨t.lastId + 1, room, water, now⟩) :
      Saves room water now t (.ok ⟨t.lastId + 1, room, water, now⟩) (t.push row)
  | failed (fault : Fault) : Saves room water now t (.error fault) t

theorem saveSample_saves (s : Store) (now : Time.Instant) (room water : Option Float) :
    exists outcome, (s.answer now (.saveSample room water)).1 = .sample outcome ∧
      Saves room water now s.sampleSheet outcome
        (s.answer now (.saveSample room water)).2.sampleSheet := by
  cases s with
  | memory m =>
      have hSheet : ((memory m).answer now (.saveSample room water)).2.sampleSheet =
          (memory m).sampleSheet.push
            (.kept ⟨(memory m).sampleSheet.lastId + 1, room, water, now⟩) := by
        simp [answer, Memory.answer, Memory.saveSample, Memory.counted, sampleSheet,
          Sheet.ofMemory, Sheet.push, Memory.nextId]
      rw [hSheet]
      exact ⟨_, rfl, .stored (.kept _)⟩
  | database d =>
      have hSheet : ((database d).answer now (.saveSample room water)).2.sampleSheet =
          (database d).sampleSheet.push
            (.cells (d.samples.lastId + 1) (Database.sampleCells room water now)) :=
        push_ofTable ..
      rw [hSheet]
      exact ⟨_, rfl, .stored (.cells ⟨d.samples.lastId + 1, room, water, now⟩)⟩

/-!
## A table and what it held before
-/

/-- The table holds what it held before and one row for each sample, numbered in order. -/
structure Stocked (base t : Sheet Sample) (samples : List Sample) : Prop where
  rows : exists rows, t.rows = base.rows ++ rows ∧ List.Forall₂ Holds rows samples
  lastId : t.lastId = base.lastId + samples.length
  ids : forall (k : Nat) (sample : Sample), samples[k]? = some sample ->
    sample.id = base.lastId + k + 1

theorem stocked_nil (base : Sheet Sample) : Stocked base base [] where
  rows := ⟨[], (List.append_nil _).symm, .nil⟩
  lastId := (Int.add_zero _).symm
  ids := by simp

theorem stocked_push {base t : Sheet Sample} {samples : List Sample} {row : Row Sample}
    {sample : Sample} (h : Stocked base t samples) (hRow : Holds row sample)
    (hId : sample.id = t.lastId + 1) : Stocked base (t.push row) (samples ++ [sample]) := by
  constructor
  · rcases h.rows with ⟨rows, hRows, hHolds⟩
    refine ⟨rows ++ [row], ?_, List.rel_append hHolds (.cons hRow .nil)⟩
    rw [Sheet.push, hRows, List.append_assoc]
  · simp only [Sheet.push, h.lastId, List.length_append, List.length_singleton]
    omega
  · intro k later hLater
    rw [List.getElem?_append] at hLater
    split at hLater
    · exact h.ids k later hLater
    · next hLast =>
        rw [List.getElem?_singleton] at hLater
        split at hLater
        · cases hLater
          rw [hId, h.lastId]
          omega
        · cases hLater

section Saves

variable {room water : Option Float} {now : Time.Instant} {base t u : Sheet Sample}
  {outcome : Except Fault Sample}

theorem stocked_saves {samples : List Sample} (h : Stocked base t samples)
    (hSaves : Saves room water now t outcome u) :
    Stocked base u (samples ++ outcome.toOption.toList) := by
  cases hSaves with
  | stored hRow => exact stocked_push h hRow rfl
  | failed fault => simpa [Except.toOption] using h

theorem saves_same {sample : Sample} (hSaves : Saves room water now t outcome u)
    (hOk : outcome = .ok sample) :
    sample.room = room ∧ sample.water = water ∧ sample.taken = now := by
  cases hSaves with
  | stored hRow =>
      cases hOk
      exact ⟨rfl, rfl, rfl⟩
  | failed fault => cases hOk

end Saves
end Store

namespace Monitor

open Store (Saves)
open Time (instantOf)

theorem answer_saves {o : Outside} {now : Nat} {room water : Option Float}
    {outcome : Except Fault Temperature.Sample}
    (hReply : (o.answer now (.store (.saveSample room water))).1 = .store (.sample outcome)) :
    Saves room water (instantOf now) o.store.sampleSheet outcome
      (o.answer now (.store (.saveSample room water))).2.store.sampleSheet := by
  rcases answer_cases o now (.store (.saveSample room water)) with
    ⟨fault, _, hAnswer⟩ | ⟨_, ⟨_, hOther, _⟩ | ⟨request, hCall, hAnswer⟩⟩
  · rw [hAnswer] at hReply ⊢
    cases hReply
    exact .failed fault
  · cases hOther
  · cases hCall
    rcases Store.saveSample_saves o.store (instantOf now) room water with
      ⟨given, hGiven, hSaves⟩
    rw [hAnswer] at hReply ⊢
    rw [hGiven] at hReply
    cases hReply
    exact hSaves

/-!
## Scenes
-/

section Scenes

variable {s : Monitor}

theorem temperature_hands {event : Temperature.Event}
    (h : (Scene.mk s (.turn .temperature)).temperatureEvent? = some event) :
    exists served, TemperatureServes s event served ∧
      s.happen (.turn .temperature) = served.handTemperature event := by
  rcases Option.map_eq_some_iff.mp h with ⟨⟨given, served⟩, hEvent, hGiven⟩
  cases hGiven
  have hEvent : s.temperatureEvent? = some (given, served) := hEvent
  exact ⟨served, temperatureEvent_serves hEvent, by
    simp [happen, turn?, temperatureTurn?, hEvent]⟩

theorem samples_apart {h : Happening} (hOrder : InOrder s)
    (hUndisturbed : (Scene.mk s h).Undisturbed .temperature)
    (hEvent : (Scene.mk s h).temperatureEvent? = none) :
    (s.happen h).outside.store.sampleSheet = s.outside.store.sampleSheet := by
  by_cases hTurn : h = .turn .temperature
  · have hIdle : s.temperatureEvent? = none := by
      simpa [hTurn, Scene.temperatureEvent?] using hEvent
    simp [hTurn, happen, turn?, temperatureTurn?, hIdle]
  · exact Store.sampleSheet_only (rows_elsewhere hOrder hUndisturbed hTurn)

theorem samples_unsaved {event : Temperature.Event} (hOrder : InOrder s)
    (hScene : (Scene.mk s (.turn .temperature)).temperatureEvent? = some event)
    (hPhase : forall room water, s.temperature.state.phase ≠ .saving room water) :
    (s.happen (.turn .temperature)).outside.store.sampleSheet = s.outside.store.sampleSheet := by
  rcases temperature_hands hScene with ⟨served, hServes, hNext⟩
  rw [hNext, handTemperature_outside]
  cases hServes with
  | @reply pending hPending hDue =>
      have hExpects := hOrder.temperature.expects
      rw [hPending, Option.map_some] at hExpects
      generalize pending.call = call at hExpects
      cases hExpects with
      | reading hReading hTicker => exact congrArg _ (answer_sensors_store ..)
      | saving hSaving hTicker => exact absurd hSaving (hPhase _ _)
  | _ => rfl

theorem samples_saved {room water : Option Float} {outcome : Except Fault Temperature.Sample}
    (hOrder : InOrder s) (hPhase : s.temperature.state.phase = .saving room water)
    (hScene : (Scene.mk s (.turn .temperature)).temperatureEvent? =
      some (.reply (.store (.sample outcome)))) :
    Saves room water (instantOf s.now) s.outside.store.sampleSheet outcome
      (s.happen (.turn .temperature)).outside.store.sampleSheet := by
  rcases temperature_hands hScene with ⟨served, hServes, hNext⟩
  rw [hNext, handTemperature_outside]
  generalize hEvent : Temperature.Event.reply (.store (.sample outcome)) = event at hServes
  cases hServes with
  | @reply pending hPending hDue =>
      have hExpects := hOrder.temperature.expects
      rw [hPending, Option.map_some] at hExpects
      have hCall : pending.call = .store (.saveSample room water) := by
        generalize hGiven : some pending.call = call? at hExpects
        cases hExpects with
        | saving hSaving hTicker =>
            cases hPhase.symm.trans hSaving
            exact Option.some.inj hGiven
        | _ => simp_all
      rw [hCall] at hEvent ⊢
      injection hEvent with hReply
      exact answer_saves hReply.symm
  | _ => cases hEvent

end Scenes

end Monitor
end TubMonitor
