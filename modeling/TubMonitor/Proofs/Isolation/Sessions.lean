import TubMonitor.Proofs.Deeds
import TubMonitor.Proofs.Isolation.Rows
import TubMonitor.Proofs.Mail.Ledger
import TubMonitor.Proofs.Mail.Posts

/-!
# Sessions as one loop meets them

What one of the three loops that make calls has to do with the rest of a session: its
part of the configuration, what arrives for it and when, and what its calls meet with.
What it leaves behind is its account: its part of the panel, its rows, the answers to
its commands and the messages it tries to send.
-/

namespace TubMonitor

open Monitor (Call Config Snapshot)

def Console.Order.source : Console.Order -> Notice.Source
  | .ozone _ => .ozone
  | .target _ => .temperature

def Notice.Source.turn : Notice.Source -> Monitor.Turn
  | .ozone => .ozone
  | .leak => .leak
  | .temperature => .temperature

/-- The turn in which the line at its mailbox moves, if it takes commands. -/
def Notice.Source.lineTurn? : Notice.Source -> Option Monitor.Turn
  | .ozone => some .ozoneLine
  | .leak => none
  | .temperature => some .targetLine

namespace Monitor

/-!
## Parts
-/

def Config.only (c : Config) : Notice.Source -> Config
  | .ozone => { c with temperaturePeriod := 0, leakPeriod := 0, tolerance := 0, subject := "" }
  | .leak =>
      { c with temperaturePeriod := 0, tolerance := 0, maxOzoneMinutes := 0, subject := "" }
  | .temperature => { c with leakPeriod := 0, maxOzoneMinutes := 0, subject := "" }

def Snapshot.only (panel : Snapshot) : Notice.Source -> Snapshot
  | .ozone => { Snapshot.blank with ozone := panel.ozone, remaining := panel.remaining }
  | .leak =>
      { Snapshot.blank with leakPresent := panel.leakPresent, latestLeak := panel.latestLeak }
  | .temperature =>
      { Snapshot.blank with
        room := panel.room
        water := panel.water
        sampled := panel.sampled
        target := panel.target }

def underWay? (s : Monitor) : Notice.Source -> Option Pending
  | .ozone => s.ozone.pending
  | .leak => s.leak.pending
  | .temperature => s.temperature.pending

/-!
## What a loop does by itself
-/

/-- What is next for a loop to do at this instant: to take a step or, if there is none for
it to take, to let the line at its mailbox move. -/
def nextTurn? (s : Monitor) (source : Notice.Source) : Option Turn :=
  if (s.turn? source.turn).isSome then
    some source.turn
  else
    source.lineTurn?.filter fun line => (s.turn? line).isSome

/-- There is nothing more for a loop to do at this instant. -/
def IsDone (s : Monitor) (source : Notice.Source) : Prop :=
  s.nextTurn? source = none

def Scene.isNext (scene : Scene) (source : Notice.Source) : Bool :=
  match scene.happening with
  | .turn turn => scene.before.nextTurn? source == some turn
  | _ => false

/-!
## What arrives
-/

inductive Arrival where
  | start
  | order (order : Console.Order)
  /-- The line at the mailbox moves while the loop has something else to do. -/
  | stepUp
deriving DecidableEq

/-- The command for a loop that is sent in a scene, by a client or by the console. -/
def Scene.ownOrder? (scene : Scene) (source : Notice.Source) : Option Console.Order :=
  scene.order?.filter fun order => order.source = source

def Scene.stepsUp (scene : Scene) (source : Notice.Source) : Bool :=
  match scene.happening with
  | .turn turn =>
      source.lineTurn? == some turn && (scene.before.turn? turn).isSome &&
        (scene.before.turn? source.turn).isSome
  | _ => false

/-- What reaches a loop in a scene: the start of all loops or a command for this one. -/
def Scene.arrival? (scene : Scene) (source : Notice.Source) : Option Arrival :=
  if scene.stepsUp source then
    some .stepUp
  else
    match scene.happening with
    | .start => if scene.before.isFresh then some .start else none
    | _ => (scene.ownOrder? source).map .order

/-- An instant and, if a loop is not done with it, how many steps it has taken before. -/
structure Moment where
  now : Nat
  steps : Option Nat
deriving DecidableEq

def moment (s : Monitor) (source : Notice.Source) (steps : Nat) : Moment :=
  { now := s.now
    steps := (s.nextTurn? source).map fun _ => steps }

/-- The steps that a loop has taken, so many having been taken before. -/
def stepsTaken (source : Notice.Source) : Nat -> List Scene -> Nat
  | steps, [] => steps
  | steps, scene :: rest =>
      stepsTaken source (if scene.isNext source then steps + 1 else steps) rest

/-- Everything that reaches a loop, and when. -/
def arrivals (source : Notice.Source) : Nat -> List Scene -> List (Moment × Arrival)
  | _, [] => []
  | steps, scene :: rest =>
      ((scene.arrival? source).map fun arrival =>
        (scene.before.moment source steps, arrival)).toList ++
        arrivals source (if scene.isNext source then steps + 1 else steps) rest

/-!
## What calls meet with
-/

/-- How long a call takes, what it fails with if it is one to the store, and what is
read, or not read, if it is one to the sensors. -/
structure Fate where
  delay : Nat
  failure : Option Fault
  reading : Sensors.Answer

/-- The call comes through now, and as it was to come out. -/
def Call.Meets (call : Call) (fate : Fate) (s : Monitor) : Prop :=
  match call with
  | .sensors _ => (s.outside.answer s.now call).1 = .sensors fate.reading
  | .store _ => s.outside.conditions.fault call.kind = fate.failure

/-- A scene in which the calls of a loop meet with their fates, so many having been made
before. -/
structure Scene.Meets (scene : Scene) (source : Notice.Source) (fates : Nat -> Fate)
    (made : Nat) : Prop where
  placed : forall call, call ∈ callsOf (scene.effects source) ->
    scene.before.outside.conditions.delay call.kind = (fates made).delay
  answered : forall pending, scene.happening = .turn source.turn ->
    scene.before.underWay? source = some pending -> pending.due ≤ scene.before.now ->
    pending.call.Meets (fates (made - 1)) scene.before

/-- Every call of a loop meets with its fate, the first one with the first. -/
def MeetsFates (source : Notice.Source) (fates : Nat -> Fate) : Nat -> List Scene -> Prop
  | _, [] => True
  | made, scene :: rest =>
      scene.Meets source fates made ∧
        MeetsFates source fates (made + (callsOf (scene.effects source)).length) rest

/-!
## Courses of events
-/

/-- A loop does all that it can at an instant before time passes.  Nobody else touches its
rows, and nobody cancels the loops. -/
structure Scene.Orderly (scene : Scene) (source : Notice.Source) : Prop where
  wait : forall moment now, scene.happening = .wait moment -> scene.before.now ≤ now ->
    now < moment -> ({ scene.before with now := now } : Monitor).IsDone source
  rows : forall outside, scene.happening = .shift outside ->
    outside.store.only source = scene.before.outside.store.only source
  going : scene.happening ≠ .cancel

/-- A course of events in which the calls of a loop meet with their fates, so many having
been made before. -/
structure Session (s : Monitor) (hs : List Happening) (source : Notice.Source)
    (fates : Nat -> Fate) (made : Nat) : Prop where
  orderly : forall scene, scene ∈ s.scenes hs -> scene.Orderly source
  meets : MeetsFates source fates made (s.scenes hs)

/-!
## The account of a loop
-/

def Scene.verdict? (scene : Scene) (order : Console.Order) (s : Monitor) :
    Option (Nat × Except Fault Unit) :=
  match (scene.before.send order).1 with
  | .error fault => some (scene.before.now, .error fault)
  | .ok ticket => verdictOf s.results ticket

/-- A command, when it was sent, and how and when it came out, if it has. -/
structure Exchange where
  sent : Nat
  order : Console.Order
  verdict : Option (Nat × Except Fault Unit)

def exchanges (source : Notice.Source) (past : List Scene) (s : Monitor) : List Exchange :=
  past.filterMap fun scene =>
    (scene.ownOrder? source).map fun order =>
      { sent := scene.before.now
        order
        verdict := scene.verdict? order s }

/-- The messages that a loop has tried to send, whether or not the queue took them. -/
def attempts (source : Notice.Source) (past : List Scene) : List (Nat × String) :=
  past.flatMap fun scene =>
    (notesOf (scene.effects source)).map fun text => (scene.before.now, text)

theorem attempts_concat (source : Notice.Source) (past : List Scene) (scene : Scene) :
    attempts source (past ++ [scene]) =
      attempts source past ++ (notesOf (scene.effects source)).map (scene.before.now, ·) := by
  simp [attempts]

structure Account where
  panel : Snapshot
  rows : Store
  exchanges : List Exchange
  attempts : List (Nat × String)

def account (source : Notice.Source) (past : List Scene) (s : Monitor) : Account :=
  { panel := s.snapshot.only source
    rows := s.outside.store.only source
    exchanges := exchanges source past s
    attempts := attempts source past }

end Monitor
end TubMonitor
