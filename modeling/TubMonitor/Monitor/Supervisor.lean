import TubMonitor.Monitor.Turn

/-!
# Starting and stopping

The loops are started once.  Stopping cancels them all; what they are in the middle of
they still see through.  A monitor that is stopped before it was started never starts.

Whoever stops the monitor waits until all loops are over.  That the wait is given up midway,
with some loops waited for and the panel as it was, is left out.
-/

namespace TubMonitor
namespace Monitor

def isFresh (s : Monitor) : Bool :=
  !s.isStarted && !s.isCancelled

def launch (s : Monitor) (source : Notice.Source) (state : σ) (effects : List Effect) :
    Worker σ × Monitor :=
  let (pending, s) := s.carryOutAll source effects
  ({ state, pending }, s)

def launchOzone (s : Monitor) : Monitor :=
  let (state, effects) := Ozone.Controller.start
  let (ozone, s) := s.launch .ozone state effects
  { s with ozone }

def launchLeak (s : Monitor) : Monitor :=
  let (state, effects) := Leak.Watch.start s.config.leakPeriod
  let (leak, s) := s.launch .leak state effects
  { s with leak }

/-- Without a period the loop is over at once, and its mailbox with it. -/
def launchTemperature (s : Monitor) : Monitor :=
  let state :=
    Temperature.Sampler.start s.config.temperaturePeriod s.config.tolerance s.now
  let s := { s with temperature := ⟨state, none⟩ }
  if state.hasEnded then s.closeTargetBox else s

def start (s : Monitor) : Except Fault Unit × Monitor :=
  if s.isFresh then
    (.ok (), { s with isStarted := true }.launchOzone.launchLeak.launchTemperature)
  else
    (.error .alreadyStarted, s)

/-- Loops that never began will take no command any more. -/
def cancel (s : Monitor) : Monitor :=
  if s.isFresh then
    { s.closeOzoneBox.closeTargetBox with isCancelled := true }
  else
    { s with isCancelled := true }

def isOver (s : Monitor) : Bool :=
  s.running.isEmpty

/-- All loops have been waited for, and the panel is cleared. -/
def join (s : Monitor) : Monitor :=
  { s with
    isJoined := true
    ozone := { s.ozone with state := s.ozone.state.reset }
    leak := { s.leak with state := s.leak.state.reset }
    temperature := { s.temperature with state := s.temperature.state.reset } }

end Monitor
end TubMonitor
