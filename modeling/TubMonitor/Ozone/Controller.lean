import TubMonitor.Monitor.Gateway

/-!
# The ozone loop

The controller alone switches the generator.  It serves one event at a time: a
command, the deadline of the run in progress or a cancellation, each of which it sees
through, call by call, before it waits for the next.  A run is retired before another
one begins, and the panel keeps showing the old run until it shows the new one.
-/

namespace TubMonitor
namespace Ozone

open Monitor (Effect Reply)
open Time (Instant instantOf)

inductive Command where
  | start (minutes : Nat)
  | stop
deriving DecidableEq, Repr

def Command.check (maxMinutes : Nat) : Command → Except Fault Unit
  | start minutes =>
      if minutes = 0 ∨ maxMinutes < minutes then
        .error (.invalidCommand
          ("ozone duration must be 1-" ++ toString maxMinutes ++ " minutes, got "
            ++ toString minutes))
      else
        .ok ()
  | stop => .ok ()

/-!
## Runs
-/

structure Run where
  /-- The row of the run, unless it could not be stored. -/
  id : Option Int
  start : Instant
  minutes : Nat
  deadline : Nat
deriving DecidableEq, Repr

structure Opening where
  minutes : Nat
  ticket : Nat
  start : Instant
deriving DecidableEq, Repr

inductive Ending where
  | manual (ticket : Nat)
  | expired
  | replaced (minutes : Nat) (ticket : Nat)
  | shutdown
deriving DecidableEq, Repr

def Ending.status : Ending → String
  | manual _ => "Stopped manually"
  | expired => "Completed"
  | replaced _ _ => "Replaced by new run"
  | shutdown => "Stopped at shutdown"

def Run.ended (run : Run) (ending : Ending) (stop : Instant) : RunState :=
  { running := false
    start := some run.start
    stop := some stop
    minutes := run.minutes
    status := ending.status }

/-!
## Phases
-/

inductive Phase where
  /-- The loop has not begun. -/
  | dormant
  /-- The latest entry is being looked up. -/
  | loading
  /-- The generator is being switched off before anything else. -/
  | securing
  | waiting (active : Option Run)
  | switchingOff (run : Run) (ending : Ending)
  | closing (run : Run) (ending : Ending) (id : Int) (stop : Instant)
  | labelling (run : Run) (ending : Ending) (stop : Instant)
  | recording (opening : Opening)
  | switchingOn (opening : Opening) (id : Option Int)
  /-- The generator did not come on, which is being noted. -/
  | flagging (opening : Opening) (id : Int) (why : Fault)
  | ended
deriving DecidableEq, Repr

structure Controller where
  phase : Phase
  shown : RunState
deriving DecidableEq, Repr

inductive Event where
  | reply (reply : Reply)
  | command (command : Command) (ticket : Nat)
  | deadline
  | cancel

namespace Controller

/-!
## Calls
-/

def switchCall (on : Bool) : Effect :=
  .call (.sensors (.switch .ozone on))

def stopCall (id : Int) : Effect :=
  .call (.store (.stopEntry id))

def statusCall (id : Int) (status : String) : Effect :=
  .call (.store (.setStatus id status))

def offWarning : Except Fault Unit → List Effect
  | .ok () => []
  | .error fault => [.notify ("Ozone generator may still be on: " ++ fault.message)]

/-!
## Beginning a run
-/

def begin (c : Controller) (now : Nat) (minutes : Nat) (ticket : Nat) :
    Controller × List Effect :=
  let opening : Opening := { minutes, ticket, start := instantOf now }
  ({ c with phase := .recording opening },
    [.call (.store (.startEntry opening.start minutes))])

/-- The deadline counts from here, however long the calls have taken. -/
def began (now : Nat) (opening : Opening) (id : Option Int) (status : String) :
    Controller × List Effect :=
  let run : Run :=
    { id
      start := opening.start
      minutes := opening.minutes
      deadline := now + opening.minutes * Time.millisPerMinute }
  ({ phase := .waiting (some run)
     shown := RunState.started opening.start opening.minutes status },
    [ .notify ("Ozone started for " ++ toString opening.minutes ++ " minutes")
    , .acknowledge opening.ticket ])

def onFailure (fault : Fault) : Effect :=
  .notify ("Failed to turn ozone on: " ++ fault.message)

def onFailureStatus (fault : Fault) : String :=
  "Ozone on failed: " ++ fault.message

def beganWithout (now : Nat) (opening : Opening) (id : Option Int) (fault : Fault) :
    Controller × List Effect :=
  let (next, effects) := began now opening id (onFailureStatus fault)
  (next, onFailure fault :: effects)

/-!
## Ending a run
-/

def retire (c : Controller) (run : Run) (ending : Ending) : Controller × List Effect :=
  ({ c with phase := .switchingOff run ending }, [switchCall false])

def retired (c : Controller) (now : Nat) (run : Run) (ending : Ending) (stop : Instant) :
    Controller × List Effect :=
  let note : Effect := .notify ("Ozone stopped: " ++ ending.status)
  let shown := run.ended ending stop
  match ending with
  | .manual ticket => ({ phase := .waiting none, shown }, [note, .acknowledge ticket])
  | .expired => ({ phase := .waiting none, shown }, [note])
  | .shutdown => ({ phase := .ended, shown }, [note])
  | .replaced minutes ticket =>
      let (next, effects) := c.begin now minutes ticket
      (next, note :: effects)

/-!
## Steps
-/

def dormant : Controller :=
  { phase := .dormant, shown := RunState.idle }

/-- The loop as it begins: the first call is for the latest entry. -/
def start : Controller × List Effect :=
  ({ phase := .loading, shown := RunState.idle }, [.call (.store .latestEntry)])

def serve (c : Controller) (now : Nat) (active : Option Run) (command : Command)
    (ticket : Nat) : Controller × List Effect :=
  match command, active with
  | .stop, none => (c, [.acknowledge ticket])
  | .stop, some run => c.retire run (.manual ticket)
  | .start minutes, none => c.begin now minutes ticket
  | .start minutes, some run => c.retire run (.replaced minutes ticket)

def restored (c : Controller) : Except Fault (Option Entry) → RunState
  | .ok (some entry) => RunState.ofEntry entry
  | _ => c.shown

def step (now : Nat) (c : Controller) (event : Event) : Controller × List Effect :=
  match c.phase, event with
  | .loading, .reply (.store (.latestEntry outcome)) =>
      ({ phase := .securing, shown := c.restored outcome }, [switchCall false])
  | .securing, .reply (.sensors (.switched outcome)) =>
      ({ c with phase := .waiting none }, offWarning outcome)
  | .waiting none, .cancel => ({ c with phase := .ended }, [])
  | .waiting (some run), .cancel => c.retire run .shutdown
  | .waiting (some run), .deadline =>
      if run.deadline ≤ now then c.retire run .expired else (c, [])
  | .waiting active, .command command ticket => c.serve now active command ticket
  | .switchingOff run ending, .reply (.sensors (.switched outcome)) =>
      match run.id with
      | some id =>
          ({ c with phase := .closing run ending id (instantOf now) },
            offWarning outcome ++ [stopCall id])
      | none =>
          let (next, effects) := c.retired now run ending (instantOf now)
          (next, offWarning outcome ++ effects)
  | .closing run ending id stop, .reply (.store (.entry outcome)) =>
      let stop :=
        match outcome with
        | .ok entry => entry.stop.getD stop
        | .error _ => stop
      ({ c with phase := .labelling run ending stop }, [statusCall id ending.status])
  | .labelling run ending stop, .reply (.store (.entry _)) => c.retired now run ending stop
  | .recording opening, .reply (.store (.entry outcome)) =>
      let id := outcome.toOption.map Entry.id
      ({ c with phase := .switchingOn opening id }, [switchCall true])
  | .switchingOn opening id, .reply (.sensors (.switched outcome)) =>
      match outcome, id with
      | .ok (), _ => began now opening id runningStatus
      | .error fault, some row =>
          ({ c with phase := .flagging opening row fault },
            [statusCall row (onFailureStatus fault)])
      | .error fault, none => beganWithout now opening none fault
  | .flagging opening id fault, .reply (.store (.entry _)) =>
      beganWithout now opening (some id) fault
  | _, _ => (c, [])

def reset (c : Controller) : Controller :=
  { c with shown := RunState.idle }

/-!
## What the loop waits for
-/

def active? (c : Controller) : Option Run :=
  match c.phase with
  | .waiting active => active
  | _ => none

def isWaiting (c : Controller) : Bool :=
  match c.phase with
  | .waiting _ => true
  | _ => false

def hasEnded (c : Controller) : Bool :=
  match c.phase with
  | .ended => true
  | _ => false

end Controller
end Ozone
end TubMonitor
