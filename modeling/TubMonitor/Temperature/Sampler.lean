import TubMonitor.Monitor.Gateway
import TubMonitor.Temperature.Basic

/-!
# The temperature loop

Every tick takes one sample, the first at once.  Commands arm a target or take it
away; they are served before a tick that is due at the same time.  A sample whose
water reading reaches an armed target disarms it and says so.
-/

namespace TubMonitor
namespace Temperature

open Monitor (Effect Reply)
open Time (Instant Ticker instantOf)

/-- A target to arm, or none to clear the one there is. -/
abbrev Command := Option Float

namespace Command

def check : Command → Except Fault Unit
  | some degrees =>
      if degrees.isFinite then
        .ok ()
      else
        .error (.invalidCommand
          ("target temperature must be a number, got " ++ Decimal.plain.text degrees))
  | none => .ok ()

end Command

inductive Phase where
  /-- The loop has not begun. -/
  | dormant
  | waiting
  | reading
  | saving (room water : Option Float)
  | ended
  /-- There is no ticking without a period. -/
  | failed
deriving DecidableEq, Repr

structure Sampler where
  phase : Phase
  tolerance : Float
  ticker : Option Ticker
  /-- What the panel shows. -/
  room : Option Float
  water : Option Float
  sampled : Option Instant
  target : Option Target
deriving DecidableEq, Repr

inductive Event where
  | reply (reply : Reply)
  | command (command : Command) (ticket : Nat)
  | tick
  | cancel

namespace Sampler

def dormant : Sampler :=
  { phase := .dormant
    tolerance := 0
    ticker := none
    room := none
    water := none
    sampled := none
    target := none }

def start (period : Nat) (tolerance : Float) (now : Nat) : Sampler :=
  let ticker := Ticker.start? period now
  { phase := if ticker.isSome then .waiting else .failed
    tolerance
    ticker
    room := none
    water := none
    sampled := none
    target := none }

/-!
## Targets
-/

def serve (s : Sampler) (command : Command) : Sampler :=
  { s with target := command.map Target.armed }

def reachedNote (water degrees : Float) : Effect :=
  .notify
    ("Water temperature reached " ++ degreesText water ++ " (target "
      ++ degreesText degrees ++ ")")

def reached? (s : Sampler) (water : Option Float) : Option (Float × Target) :=
  match water, s.target with
  | some water, some target =>
      if target.active && target.isReached water s.tolerance then
        some (water, target)
      else
        none
  | _, _ => none

/-!
## Samples
-/

/-- The readings of a sample are shown whether or not it was saved. -/
def record (s : Sampler) (now : Nat) (room water : Option Float) :
    Sampler × List Effect :=
  let shown : Sampler :=
    { s with phase := .waiting, room, water, sampled := some (instantOf now) }
  match s.reached? water with
  | some (water, target) =>
      ({ shown with target := some { target with active := false } },
        [reachedNote water target.degrees])
  | none => (shown, [])

/-!
## Steps
-/

def step (now : Nat) (s : Sampler) (event : Event) : Sampler × List Effect :=
  match s.phase, event with
  | .waiting, .cancel => ({ s with phase := .ended }, [])
  | .waiting, .command command ticket => (s.serve command, [.acknowledge ticket])
  | .waiting, .tick =>
      match s.ticker with
      | some ticker =>
          if ticker.isDue now then
            ({ s with phase := .reading, ticker := some (ticker.take now) },
              [.call (.sensors .temperatures)])
          else
            (s, [])
      | none => (s, [])
  | .reading, .reply (.sensors (.temperatures readings)) =>
      let room := readings.room.toOption
      let water := readings.water.toOption
      ({ s with phase := .saving room water }, [.call (.store (.saveSample room water))])
  | .saving room water, .reply (.store (.sample _)) => s.record now room water
  | _, _ => (s, [])

def reset (s : Sampler) : Sampler :=
  { s with room := none, water := none, sampled := none, target := none }

/-!
## What the loop waits for
-/

def isWaiting (s : Sampler) : Bool :=
  match s.phase with
  | .waiting => true
  | _ => false

def ticker? (s : Sampler) : Option Ticker :=
  match s.phase with
  | .waiting => s.ticker
  | _ => none

def hasEnded (s : Sampler) : Bool :=
  match s.phase with
  | .ended => true
  | .failed => true
  | _ => false

end Sampler
end Temperature
end TubMonitor
