import TubMonitor.Proofs.Temperature.Moves
import TubMonitor.Proofs.Temperature.Samples

/-!
# What samples leave behind

The samples among the deeds of the temperature loop: which calls each takes, what the panel
shows after it and what of it has been stored.  A move adds to what is in hand, serves a
command or completes a sample, and only the last of these changes what is shown.
-/

namespace TubMonitor
namespace Temperature

open Monitor (Call)
open Time (Instant instantOf)

/-!
## Readouts
-/

/-- What the panel shows of the samples. -/
structure Readout where
  room : Option Float
  water : Option Float
  sampled : Option Instant

def Readout.blank : Readout :=
  ⟨none, none, none⟩

def Sampler.readout (s : Sampler) : Readout :=
  ⟨s.room, s.water, s.sampled⟩

/-- A reading that has failed is not shown, and neither is the one before it. -/
def Sampling.readout (x : Sampling) : Readout :=
  ⟨x.readings.room.toOption, x.readings.water.toOption, some (instantOf x.saved)⟩

def lastReadout (taken : List Sampling) : Readout :=
  (taken.getLast?.map Sampling.readout).getD .blank

@[simp] theorem lastReadout_concat (taken : List Sampling) (x : Sampling) :
    lastReadout (taken ++ [x]) = x.readout := by
  simp [lastReadout]

/-!
## Samples among the deeds
-/

def Deed.sampling? : Deed -> Option Sampling
  | .served _ _ _ => none
  | .sampled x => some x

def samplings (deeds : List Deed) : List Sampling :=
  deeds.filterMap Deed.sampling?

@[simp] theorem samplings_append (first second : List Deed) :
    samplings (first ++ second) = samplings first ++ samplings second := by
  simp [samplings]

@[simp] theorem samplings_nil : samplings [] = [] := rfl

@[simp] theorem samplings_served (moment : Nat) (command : Command) (ticket : Nat) :
    samplings [.served moment command ticket] = [] := rfl

@[simp] theorem samplings_sampled (x : Sampling) : samplings [.sampled x] = [x] := rfl

def stored (taken : List Sampling) : List Sample :=
  taken.filterMap fun x => x.outcome.toOption

theorem stored_concat (taken : List Sampling) (x : Sampling) :
    stored (taken ++ [x]) = stored taken ++ x.outcome.toOption.toList := by
  cases hOutcome : x.outcome.toOption <;> simp [stored, hOutcome]

/-- What has been stored are the readings, with the instant at which the sample was over. -/
def Sampling.Faithful (x : Sampling) : Prop :=
  forall sample, x.outcome = .ok sample ->
    sample.room = x.readings.room.toOption ∧ sample.water = x.readings.water.toOption ∧
      sample.taken = instantOf x.saved

/-!
## Calls
-/

/-- The call that the loop makes when it is handed an event. -/
def Event.call? : Event -> Option Call
  | .tick => some (.sensors .temperatures)
  | .reply (.sensors (.temperatures readings)) =>
      some (.store (.saveSample readings.room.toOption readings.water.toOption))
  | _ => none

def callsFor (events : List (Nat × Event)) : List (Nat × Call) :=
  events.filterMap fun entry => entry.2.call?.map (entry.1, ·)

@[simp] theorem callsFor_append (first second : List (Nat × Event)) :
    callsFor (first ++ second) = callsFor first ++ callsFor second := by
  simp [callsFor]

/-- A sample takes one reading of the sensors and one attempt to save it. -/
def Sampling.calls (x : Sampling) : List (Nat × Call) :=
  [ (x.begun, .sensors .temperatures)
  , (x.read, .store (.saveSample x.readings.room.toOption x.readings.water.toOption)) ]

theorem callsFor_deeds (deeds : List Deed) :
    callsFor (deeds.flatMap Deed.events) = (samplings deeds).flatMap Sampling.calls := by
  induction deeds with
  | nil => rfl
  | cons deed rest ih =>
      rw [List.flatMap_cons, callsFor_append, ih]
      cases deed <;> rfl

theorem move_call {now : Nat} {s : Sampler} {event : Event}
    {result : Sampler × List Monitor.Effect} (h : Sampler.Move now s event result) :
    Monitor.callsOf result.2 = event.call?.toList := by
  cases h with
  | saved outcome hPhase hTicker =>
      simp only [Sampler.record]
      split <;> rfl
  | _ => rfl

/-!
## Moves
-/

/-- What a move makes of the event and of what is in hand. -/
inductive Furthers (now : Nat) (s next : Sampler) :
    List (Nat × Event) -> Event -> List Deed -> List (Nat × Event) -> Prop where
  | holds {rest : List (Nat × Event)} {event : Event} (hReadout : next.readout = s.readout)
      (hUnsaved : forall room water, s.phase ≠ .saving room water) :
      Furthers now s next rest event [] (rest ++ [(now, event)])
  | serves (command : Command) (ticket : Nat) (hReadout : next.readout = s.readout)
      (hUnsaved : forall room water, s.phase ≠ .saving room water) :
      Furthers now s next [] (.command command ticket) [.served now command ticket] []
  | samples (x : Sampling) (hSaved : x.saved = now)
      (hPhase : s.phase = .saving x.readings.room.toOption x.readings.water.toOption)
      (hReadout : next.readout = x.readout) :
      Furthers now s next
        [(x.begun, .tick), (x.read, .reply (.sensors (.temperatures x.readings)))]
        (.reply (.store (.sample x.outcome))) [.sampled x] []

section Moves

variable {now : Nat} {s next : Sampler} {event : Event} {rest left : List (Nat × Event)}
  {more : List Deed}

theorem furthers_events (h : Furthers now s next rest event more left) :
    rest ++ [(now, event)] = more.flatMap Deed.events ++ left := by
  cases h with
  | holds hReadout hUnsaved => rfl
  | serves command ticket hReadout hUnsaved => rfl
  | samples x hSaved hPhase hReadout =>
      subst hSaved
      rfl

theorem record_readout (s : Sampler) (now : Nat) (room water : Option Float) :
    (s.record now room water).1.readout = ⟨room, water, some (instantOf now)⟩ := by
  simp only [Sampler.record]
  split <;> rfl

theorem move_furthers {result : Sampler × List Monitor.Effect}
    (hMove : Sampler.Move now s event result) (hInHand : InHand s.phase rest) :
    exists more left,
      Furthers now s result.1 rest event more left ∧ InHand result.1.phase left := by
  cases hMove with
  | finished hPhase =>
      rw [hPhase] at hInHand
      cases hInHand
      exact ⟨[], _, .holds rfl (by simp [hPhase]), .ended now⟩
  | served command ticket hPhase hTicker =>
      rw [hPhase] at hInHand
      cases hInHand
      refine ⟨_, [], .serves command ticket rfl (by simp [hPhase]), ?_⟩
      rw [Sampler.serve, hPhase]
      exact .waiting
  | ticked hPhase hTicker hDue =>
      rw [hPhase] at hInHand
      cases hInHand
      exact ⟨[], _, .holds rfl (by simp [hPhase]), .reading now⟩
  | read readings hPhase hTicker =>
      rw [hPhase] at hInHand
      cases hInHand with
      | reading begun =>
          exact ⟨[], _, .holds rfl (by simp [hPhase]), .saving begun now readings⟩
  | saved outcome hPhase hTicker =>
      rw [hPhase] at hInHand
      cases hInHand with
      | saving begun read readings =>
          refine ⟨_, [], .samples ⟨begun, read, readings, now, outcome⟩ rfl hPhase ?_, ?_⟩
          · exact record_readout ..
          · rw [Sampler.record_begun]
            exact .waiting

theorem move_unsaved {result : Sampler × List Monitor.Effect}
    (hMove : Sampler.Move now s event result)
    (hUnsaved : forall outcome, event ≠ .reply (.store (.sample outcome))) :
    result.1.readout = s.readout ∧ forall room water, s.phase ≠ .saving room water := by
  cases hMove with
  | finished hPhase => exact ⟨rfl, by simp [hPhase]⟩
  | served command ticket hPhase hTicker => exact ⟨rfl, by simp [hPhase]⟩
  | ticked hPhase hTicker hDue => exact ⟨rfl, by simp [hPhase]⟩
  | read readings hPhase hTicker => exact ⟨rfl, by simp [hPhase]⟩
  | saved outcome hPhase hTicker => exact absurd rfl (hUnsaved outcome)

end Moves

/-!
## Deeds are told by their events
-/

theorem inHand_deed {phase : Phase} {rest later : List (Nat × Event)} {deed : Deed}
    (hInHand : InHand phase rest) : rest ≠ deed.events ++ later := by
  intro hRest
  cases deed <;> cases hInHand <;> cases hRest

theorem deed_head {deed other : Deed} {rest left : List (Nat × Event)}
    (h : deed.events ++ rest = other.events ++ left) : deed = other ∧ rest = left := by
  cases deed with
  | served moment command ticket =>
      cases other with
      | served => simpa [Deed.events, and_assoc] using h
      | sampled y => simp [Deed.events] at h
  | sampled x =>
      cases other with
      | served => simp [Deed.events] at h
      | sampled y =>
          rcases x with ⟨begun, read, readings, saved, outcome⟩
          rcases y with ⟨begun', read', readings', saved', outcome'⟩
          simpa [Deed.events, and_assoc] using h

theorem deeds_unique {phase : Phase} {deeds others : List Deed} {rest left : List (Nat × Event)}
    (hRest : InHand phase rest) (hLeft : InHand phase left)
    (h : deeds.flatMap Deed.events ++ rest = others.flatMap Deed.events ++ left) :
    deeds = others ∧ rest = left := by
  induction deeds generalizing others with
  | nil =>
      cases others with
      | nil => exact ⟨rfl, h⟩
      | cons other others =>
          rw [List.flatMap_cons, List.append_assoc] at h
          exact absurd h (inHand_deed hRest)
  | cons deed deeds ih =>
      cases others with
      | nil =>
          rw [List.flatMap_cons, List.append_assoc] at h
          exact absurd h.symm (inHand_deed hLeft)
      | cons other others =>
          rw [List.flatMap_cons, List.flatMap_cons, List.append_assoc, List.append_assoc] at h
          rcases deed_head h with ⟨rfl, hMore⟩
          rcases ih hMore with ⟨rfl, rfl⟩
          exact ⟨rfl, rfl⟩

end Temperature
end TubMonitor
