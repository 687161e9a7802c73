import Mathlib.Data.List.Induction
import TubMonitor.Temperature.Sampler

/-!
# Samples and targets

What the temperature loop does one after the other: it serves a command or takes a sample.
From this alone it follows which target is armed, whether it has been reached, and at which
samples this is said.
-/

namespace TubMonitor
namespace Temperature

/-!
## Deeds
-/

/-- A sample, from the tick that begins it to the answer of the store. -/
structure Sampling where
  begun : Nat
  read : Nat
  readings : Sensors.Readings
  saved : Nat
  outcome : Except Fault Sample

inductive Deed where
  | served (moment : Nat) (command : Command) (ticket : Nat)
  | sampled (x : Sampling)

def Deed.events : Deed -> List (Nat × Event)
  | .served moment command ticket => [(moment, .command command ticket)]
  | .sampled x =>
      [ (x.begun, .tick)
      , (x.read, .reply (.sensors (.temperatures x.readings)))
      , (x.saved, .reply (.store (.sample x.outcome))) ]

/-- What the loop has been handed since its last deed, by the phase that it is in. -/
inductive InHand : Phase -> List (Nat × Event) -> Prop where
  | dormant : InHand .dormant []
  | waiting : InHand .waiting []
  | reading (begun : Nat) : InHand .reading [(begun, .tick)]
  | saving (begun read : Nat) (readings : Sensors.Readings) :
      InHand (.saving readings.room.toOption readings.water.toOption)
        [(begun, .tick), (read, .reply (.sensors (.temperatures readings)))]
  | ended (moment : Nat) : InHand .ended [(moment, .cancel)]
  | failed : InHand .failed []

/-- The water of the sample lies within the tolerance, if it could be read. -/
def reaches (tolerance degrees : Float) (x : Sampling) : Bool :=
  match x.readings.water with
  | .ok water => (Target.armed degrees).isReached water tolerance
  | .error _ => false

def reachedText (water degrees : Float) : String :=
  "Water temperature reached " ++ degreesText water ++ " (target " ++ degreesText degrees ++ ")"

/-!
## Aims
-/

/-- The command that was served last, if any was, and the samples begun since. -/
structure Aim where
  command : Option Command
  since : List Sampling

namespace Aim

def next (aim : Aim) : Deed -> Aim
  | .served _ command _ => ⟨some command, []⟩
  | .sampled x => { aim with since := aim.since ++ [x] }

def isReached (aim : Aim) (tolerance degrees : Float) : Bool :=
  aim.since.any (reaches tolerance degrees)

/-- What the water is to reach, unless there is nothing or it has been taken away. -/
def degrees? (aim : Aim) : Option Float :=
  aim.command.join

/-- The target that was armed last is active until a sample has reached it. -/
def target (aim : Aim) (tolerance : Float) : Option Target :=
  aim.degrees?.map fun degrees => { degrees, active := !aim.isReached tolerance degrees }

/-- What is said at the next sample: that it is the first to reach the target. -/
def tells (aim : Aim) (tolerance : Float) (x : Sampling) : List String :=
  match aim.degrees?, x.readings.water with
  | some degrees, .ok water =>
      if reaches tolerance degrees x && !aim.isReached tolerance degrees then
        [reachedText water degrees]
      else
        []
  | _, _ => []

@[simp] theorem degrees?_sampled (aim : Aim) (x : Sampling) :
    (aim.next (.sampled x)).degrees? = aim.degrees? := rfl

@[simp] theorem isReached_sampled (aim : Aim) (tolerance degrees : Float) (x : Sampling) :
    (aim.next (.sampled x)).isReached tolerance degrees =
      (aim.isReached tolerance degrees || reaches tolerance degrees x) := by
  simp [next, isReached]

theorem target_served (aim : Aim) (tolerance : Float) (moment : Nat) (command : Command)
    (ticket : Nat) :
    (aim.next (.served moment command ticket)).target tolerance = command.map Target.armed := by
  cases command <;> rfl

theorem degrees?_eq_some {aim : Aim} {degrees : Float} :
    aim.degrees? = some degrees ↔ aim.command = some (some degrees) := by
  simp [degrees?, Option.join_eq_some_iff]

end Aim

def aimOf (deeds : List Deed) : Aim :=
  deeds.foldl Aim.next ⟨none, []⟩

theorem aimOf_concat (deeds : List Deed) (deed : Deed) :
    aimOf (deeds ++ [deed]) = (aimOf deeds).next deed := by
  simp [aimOf]

theorem aimOf_sampled (deeds : List Deed) (since : List Sampling) :
    aimOf (deeds ++ since.map .sampled) =
      { aimOf deeds with since := (aimOf deeds).since ++ since } := by
  induction since using List.reverseRecOn with
  | nil => simp
  | append_singleton since x ih =>
      rw [List.map_append, ← List.append_assoc, List.map_singleton, aimOf_concat, ih]
      simp [Aim.next]

/-- The last command and the samples since are where they stand in the list of deeds. -/
theorem aimOf_eq_some {deeds : List Deed} {command : Command} {since : List Sampling} :
    aimOf deeds = ⟨some command, since⟩ ↔
      exists earlier moment ticket,
        deeds = earlier ++ .served moment command ticket :: since.map .sampled := by
  constructor
  · intro hAim
    induction deeds using List.reverseRecOn generalizing since with
    | nil => cases hAim
    | append_singleton deeds deed ih =>
        rw [aimOf_concat] at hAim
        cases deed with
        | served moment other ticket =>
            cases hAim
            exact ⟨deeds, moment, ticket, rfl⟩
        | sampled x =>
            cases hBefore : aimOf deeds with
            | mk last earlierSince =>
                rw [hBefore] at hAim
                cases hAim
                rcases ih hBefore with ⟨earlier, moment, ticket, rfl⟩
                exact ⟨earlier, moment, ticket, by simp⟩
  · rintro ⟨earlier, moment, ticket, rfl⟩
    have hSplit : earlier ++ Deed.served moment command ticket :: since.map .sampled =
        (earlier ++ [.served moment command ticket]) ++ since.map .sampled := by simp
    rw [hSplit, aimOf_sampled, aimOf_concat]
    simp [Aim.next]

theorem aimOf_eq_none {deeds : List Deed} {since : List Sampling} :
    aimOf deeds = ⟨none, since⟩ ↔ deeds = since.map .sampled := by
  constructor
  · intro hAim
    induction deeds using List.reverseRecOn generalizing since with
    | nil =>
        cases hAim
        rfl
    | append_singleton deeds deed ih =>
        rw [aimOf_concat] at hAim
        cases deed with
        | served moment other ticket => cases hAim
        | sampled x =>
            cases hBefore : aimOf deeds with
            | mk last earlierSince =>
                rw [hBefore] at hAim
                cases hAim
                rw [ih hBefore]
                simp
  · rintro rfl
    have hAim := aimOf_sampled [] since
    simpa [aimOf] using hAim

theorem target_unserved (tolerance : Float) (since : List Sampling) :
    (aimOf (since.map .sampled)).target tolerance = none := by
  rw [aimOf_eq_none.mpr rfl]
  rfl

theorem target_since (tolerance : Float) (earlier : List Deed) (moment : Nat)
    (command : Command) (ticket : Nat) (since : List Sampling) :
    (aimOf (earlier ++ .served moment command ticket :: since.map .sampled)).target tolerance =
      command.map fun degrees =>
        { degrees, active := !since.any (reaches tolerance degrees) } := by
  rw [aimOf_eq_some.mpr ⟨earlier, moment, ticket, rfl⟩]
  cases command <;> rfl

/-!
## Announcements
-/

def announced (tolerance : Float) (before : List Deed) : Deed -> List (Nat × String)
  | .served _ _ _ => []
  | .sampled x => ((aimOf before).tells tolerance x).map (x.saved, ·)

def announcements (tolerance : Float) : List Deed -> List Deed -> List (Nat × String)
  | _, [] => []
  | before, deed :: rest =>
      announced tolerance before deed ++ announcements tolerance (before ++ [deed]) rest

theorem announcements_append (tolerance : Float) (before first second : List Deed) :
    announcements tolerance before (first ++ second) =
      announcements tolerance before first ++
        announcements tolerance (before ++ first) second := by
  induction first generalizing before with
  | nil => simp [announcements]
  | cons deed rest ih => simp [announcements, ih]

theorem announcements_concat (tolerance : Float) (before deeds : List Deed) (deed : Deed) :
    announcements tolerance before (deeds ++ [deed]) =
      announcements tolerance before deeds ++ announced tolerance (before ++ deeds) deed := by
  simp [announcements_append, announcements]

/-- What is said before a command, while it is the last one, and after that. -/
theorem announcements_served (tolerance : Float) (before : List Deed) (moment : Nat)
    (command : Command) (ticket : Nat) (since : List Sampling) (after : List Deed) :
    announcements tolerance []
        (before ++ .served moment command ticket :: since.map .sampled ++ after) =
      announcements tolerance [] before ++
        announcements tolerance (before ++ [.served moment command ticket])
          (since.map .sampled) ++
        announcements tolerance (before ++ .served moment command ticket :: since.map .sampled)
          after := by
  rw [announcements_append, announcements_append, announcements]
  rfl

/-- The sample is the first one since the target was armed to reach it. -/
def Fires (tolerance : Float) (before : List Deed) (x : Sampling) (water degrees : Float) : Prop :=
  x.readings.water = .ok water ∧
    (Target.armed degrees).isReached water tolerance = true ∧
    exists (earlier : List Deed) (moment ticket : Nat) (since : List Sampling),
      before = earlier ++ .served moment (some degrees) ticket :: since.map .sampled ∧
        forall y, y ∈ since -> reaches tolerance degrees y = false

section Fires

variable {tolerance : Float} {before : List Deed} {x : Sampling}

theorem announced_of_fires {water degrees : Float} (h : Fires tolerance before x water degrees) :
    announced tolerance before (.sampled x) = [(x.saved, reachedText water degrees)] := by
  rcases h with ⟨hWater, hReached, earlier, moment, ticket, since, hBefore, hNot⟩
  have hAim := aimOf_eq_some.mpr ⟨earlier, moment, ticket, hBefore⟩
  have hDegrees : (aimOf before).degrees? = some degrees := by rw [hAim]; rfl
  have hFirst : (aimOf before).isReached tolerance degrees = false := by
    simpa [hAim, Aim.isReached] using hNot
  have hReaches : reaches tolerance degrees x = true := by rw [reaches, hWater]; exact hReached
  simp [announced, Aim.tells, hDegrees, hWater, hReaches, hFirst]

theorem fires_of_announced (h : announced tolerance before (.sampled x) ≠ []) :
    exists water degrees, Fires tolerance before x water degrees := by
  rw [announced, ne_eq, List.map_eq_nil_iff] at h
  unfold Aim.tells at h
  split at h
  · next degrees water hDegrees hWater =>
      split at h
      · next hFirst =>
          rw [Bool.and_eq_true, reaches, hWater] at hFirst
          have hAim : aimOf before = ⟨some (some degrees), (aimOf before).since⟩ := by
            rw [← Aim.degrees?_eq_some.mp hDegrees]
          rcases aimOf_eq_some.mp hAim with ⟨earlier, moment, ticket, hBefore⟩
          refine ⟨water, degrees, hWater, hFirst.1, earlier, moment, ticket, _, hBefore, ?_⟩
          simpa [Aim.isReached] using hFirst.2
      · exact absurd rfl h
  · exact absurd rfl h

end Fires

theorem tells_length {aim : Aim} {degrees : Float} (tolerance : Float) (x : Sampling)
    (hDegrees : aim.degrees? = some degrees) :
    (aim.tells tolerance x).length =
      (if reaches tolerance degrees x && !aim.isReached tolerance degrees then 1 else 0) := by
  unfold Aim.tells
  rw [hDegrees]
  cases hWater : x.readings.water with
  | error fault => simp [reaches, hWater]
  | ok water =>
      dsimp only
      split <;> rfl

/-- A target is announced once if it is reached before the next command, and else not at all. -/
theorem announcements_once (tolerance : Float) (before : List Deed) (moment ticket : Nat)
    (command : Command) (since : List Sampling) :
    (announcements tolerance (before ++ [.served moment command ticket])
        (since.map .sampled)).length =
      (if command.any fun degrees => since.any (reaches tolerance degrees) then 1 else 0) := by
  induction since using List.reverseRecOn with
  | nil => cases command <;> rfl
  | append_singleton since x ih =>
      have hAim : aimOf (before ++ [.served moment command ticket] ++ since.map .sampled) =
          ⟨some command, since⟩ := aimOf_eq_some.mpr ⟨before, moment, ticket, by simp⟩
      rw [List.map_append, List.map_singleton, announcements_concat, List.length_append, ih,
        announced, hAim, List.length_map]
      cases command with
      | none => rfl
      | some degrees =>
          rw [tells_length tolerance x rfl]
          -- The sample counts if it reaches the target and none before it has done so.
          have hSum (earlier reached : Bool) :
              (if earlier then 1 else 0) + (if reached && !earlier then 1 else 0) =
                (if earlier || reached then 1 else 0) := by
            cases earlier <;> cases reached <;> rfl
          simpa [Aim.isReached] using
            hSum (since.any (reaches tolerance degrees)) (reaches tolerance degrees x)

end Temperature
end TubMonitor
