import TubMonitor.Time.Instant

/-!
# Ozone runs

An entry is the stored row of one run.  A run state is what the panel shows of the
current run, or of the last one.
-/

namespace TubMonitor
namespace Ozone

structure Entry where
  id : Int
  start : Time.Instant
  stop : Option Time.Instant
  minutes : Nat
  running : Bool
  status : String
deriving DecidableEq, Repr

structure RunState where
  running : Bool
  start : Option Time.Instant
  /-- The scheduled end of a run in progress, the actual one of a run that is over. -/
  stop : Option Time.Instant
  minutes : Nat
  status : String
deriving DecidableEq, Repr

def runningStatus : String := "Running"

namespace RunState

def idle : RunState :=
  { running := false
    start := none
    stop := none
    minutes := 0
    status := "Idle" }

instance : Inhabited RunState := ⟨idle⟩

def started (start : Time.Instant) (minutes : Nat) (status : String) : RunState :=
  { running := true
    start := some start
    stop := some (start.addMinutes minutes)
    minutes
    status }

/-- A run that has just begun, where its scheduled end lies inside the calendar. -/
def started? (start : Time.Instant) (minutes : Nat) (status : String) : Option RunState :=
  (start.addMinutes? minutes).map fun _ => started start minutes status

/--
What a stored row shows.  A row left open says nothing about the generator, so the
state never claims to be running.
-/
def ofEntry (entry : Entry) : RunState :=
  { running := false
    start := some entry.start
    stop := entry.stop
    minutes := entry.minutes
    status := entry.status }

def remainingNanos (s : RunState) (now : Time.Instant) : Option Int :=
  if s.running then
    s.stop.map fun stop => max (stop.since now) 0
  else
    none

def remainingSeconds (s : RunState) (now : Time.Instant) : Option Int :=
  (s.remainingNanos now).map fun nanos => nanos / Time.Instant.nanosPerSecond

end RunState

end Ozone
end TubMonitor
