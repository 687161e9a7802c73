import TubMonitor.Monitor.Gateway

/-!
# The leak loop

The watch looks at the detector once when it begins and then at every tick.  A
reading that fails stands for the one before it, and a leak that is there at the
beginning counts as new.  Every wet reading switches the pump off; the edges between
wet and dry open and close a record.
-/

namespace TubMonitor
namespace Leak

open Monitor (Effect Reply)
open Time (Instant Ticker instantOf)

inductive Phase where
  /-- The loop has not begun. -/
  | dormant
  /-- The latest record is being looked up. -/
  | loading
  /-- The first reading is being taken. -/
  | seeding
  /-- The pump is being switched off. -/
  | halting
  /-- A new leak is being recorded. -/
  | recording
  /-- The record of a leak that is over is being looked up. -/
  | recalling
  | closing
  | waiting
  | polling
  | ended
  /-- There is no ticking without a period. -/
  | failed
deriving DecidableEq, Repr

structure Watch where
  phase : Phase
  period : Nat
  /-- Absent until the first reading has been dealt with. -/
  ticker : Option Ticker
  /-- The reading before the one that is being dealt with. -/
  previous : Bool
  /-- What the panel shows: the leak, and the latest record. -/
  present : Bool
  latest : Option Record
deriving DecidableEq, Repr

inductive Event where
  | reply (reply : Reply)
  | tick
  | cancel

namespace Watch

def dormant : Watch :=
  { phase := .dormant
    period := 0
    ticker := none
    previous := false
    present := false
    latest := none }

/-- The loop as it begins: the first call is for the latest record. -/
def start (period : Nat) : Watch × List Effect :=
  ({ dormant with phase := .loading, period }, [.call (.store .latestRecord)])

def leakCall : Effect :=
  .call (.sensors .leak)

def pumpOffCall : Effect :=
  .call (.sensors (.switch .pump false))

/-!
## Dealing with a reading
-/

def settle (w : Watch) (now : Nat) : Watch × List Effect :=
  let w := { w with previous := w.present }
  match w.ticker with
  | some _ => ({ w with phase := .waiting }, [])
  | none =>
      match Ticker.start? w.period now with
      | some ticker => ({ w with phase := .waiting, ticker := some (ticker.take now) }, [])
      | none => ({ w with phase := .failed }, [])

def follow (w : Watch) (now : Nat) : Watch × List Effect :=
  match w.previous, w.present with
  | false, true =>
      ({ w with phase := .recording }, [.call (.store (.createRecord (instantOf now)))])
  | true, false => ({ w with phase := .recalling }, [.call (.store .latestRecord)])
  | _, _ => w.settle now

def observe (w : Watch) (now : Nat) (present : Bool) : Watch × List Effect :=
  let w := { w with present }
  if present then ({ w with phase := .halting }, [pumpOffCall]) else w.follow now

def pumpWarning : Except Fault Unit → List Effect
  | .ok () => []
  | .error fault =>
      [.notify ("Leak present and pump could not be turned off: " ++ fault.message)]

def after (effects : List Effect) (result : Watch × List Effect) : Watch × List Effect :=
  (result.1, effects ++ result.2)

/-!
## Steps
-/

def updated (w : Watch) : Except Fault Record → Watch
  | .ok record => { w with latest := some record }
  | .error _ => w

/-- An event that the phase does not wait for is passed over. -/
def step (now : Nat) (w : Watch) (event : Event) : Watch × List Effect :=
  match w.phase, event with
  | .loading, .reply (.store (.latestRecord outcome)) =>
      let latest :=
        match outcome with
        | .ok latest => latest
        | .error _ => w.latest
      ({ w with phase := .seeding, latest }, [leakCall])
  | .seeding, .reply (.sensors (.level outcome)) =>
      w.observe now (outcome.toOption.getD false)
  | .halting, .reply (.sensors (.switched outcome)) =>
      after (pumpWarning outcome) (w.follow now)
  | .recording, .reply (.store (.record outcome)) =>
      after [.notify "Leak detected! Pump turned off."] ((w.updated outcome).settle now)
  | .recalling, .reply (.store (.latestRecord outcome)) =>
      match outcome with
      | .ok (some record) =>
          if record.isOpen then
            ({ w with phase := .closing }, [.call (.store (.clearRecord record.id))])
          else
            w.settle now
      | _ => w.settle now
  | .closing, .reply (.store (.record outcome)) =>
      match outcome with
      | .ok _ => after [.notify "Leak cleared."] ((w.updated outcome).settle now)
      | .error _ => w.settle now
  | .waiting, .cancel => ({ w with phase := .ended }, [])
  | .waiting, .tick =>
      match w.ticker with
      | some ticker =>
          if ticker.isDue now then
            ({ w with phase := .polling, ticker := some (ticker.take now) }, [leakCall])
          else
            (w, [])
      | none => (w, [])
  | .polling, .reply (.sensors (.level outcome)) =>
      match outcome with
      | .ok present => w.observe now present
      | .error _ => ({ w with phase := .waiting }, [])
  | _, _ => (w, [])

def reset (w : Watch) : Watch :=
  { w with present := false, latest := none }

/-!
## What the loop waits for
-/

def ticker? (w : Watch) : Option Ticker :=
  match w.phase with
  | .waiting => w.ticker
  | _ => none

def hasEnded (w : Watch) : Bool :=
  match w.phase with
  | .ended => true
  | .failed => true
  | _ => false

end Watch
end Leak
end TubMonitor
