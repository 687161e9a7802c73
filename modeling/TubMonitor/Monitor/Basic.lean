import TubMonitor.Console.Session
import TubMonitor.Leak.Watch
import TubMonitor.Monitor.Mailbox
import TubMonitor.Notice.Dispatcher
import TubMonitor.Ozone.Controller
import TubMonitor.Temperature.Sampler

/-!
# The monitor as a whole

Four loops, the two mailboxes of those that take commands, the console, and what lies
outside: sensors, store, sink and the clock.  Each loop owns its part of the panel; a
snapshot puts the parts together.  What has happened is kept as well: the calls that
were made, the deliveries, and how commands came out.
-/

namespace TubMonitor
namespace Monitor

/-!
## Configuration
-/

/-- Periods are in milliseconds. -/
structure Config where
  temperaturePeriod : Nat
  leakPeriod : Nat
  tolerance : Float
  maxOzoneMinutes : Nat
  subject : String
deriving DecidableEq, Repr

inductive LoopName where
  | ozone
  | leak
  | temperature
  | notification
deriving DecidableEq, Repr

/-!
## State
-/

structure Pending where
  call : Call
  due : Nat
deriving DecidableEq, Repr

structure Worker (σ : Type) where
  state : σ
  pending : Option Pending

structure Result where
  ticket : Nat
  moment : Nat
  outcome : Except Fault Unit

end Monitor

open Monitor

structure Monitor where
  config : Config
  /-- Milliseconds since 1970. -/
  now : Nat
  outside : Outside
  sink : Option Notice.Sink
  ozone : Worker Ozone.Controller
  leak : Worker Leak.Watch
  temperature : Worker Temperature.Sampler
  notices : Notice.Dispatcher
  /-- When the delivery under way will be done. -/
  deliveryDue : Nat
  ozoneBox : Mailbox Ozone.Command
  targetBox : Mailbox Temperature.Command
  nextTicket : Nat
  isStarted : Bool
  isCancelled : Bool
  /-- The loops have ended and have been waited for. -/
  isJoined : Bool
  console : Option (Worker Console.Session)
  /-- The command that the console waits for. -/
  consoleTicket : Nat
  /-- Latest first, as are the ones below. -/
  results : List Result
  calls : List (Nat × Call)
  deliveries : List Notice.Delivery
  printed : List String

namespace Monitor

def assemble (config : Config) (now : Nat) (outside : Outside)
    (sink : Option Notice.Sink) : Monitor :=
  { config
    now
    outside
    sink
    ozone := ⟨.dormant, none⟩
    leak := ⟨.dormant, none⟩
    temperature := ⟨.dormant, none⟩
    notices := Notice.Dispatcher.start config.subject sink.isSome
    deliveryDue := 0
    ozoneBox := .empty
    targetBox := .empty
    nextTicket := 0
    isStarted := false
    isCancelled := false
    isJoined := false
    console := none
    consoleTicket := 0
    results := []
    calls := []
    deliveries := []
    printed := [] }

/-!
## The panel
-/

def snapshot (s : Monitor) : Snapshot :=
  let ozone := s.ozone.state.shown
  { room := s.temperature.state.room
    water := s.temperature.state.water
    sampled := s.temperature.state.sampled
    ozone
    remaining := ozone.remainingSeconds (Time.instantOf s.now)
    leakPresent := s.leak.state.present
    latestLeak := s.leak.state.latest
    target := s.temperature.state.target }

def hasEnded (s : Monitor) : LoopName → Bool
  | .ozone => s.ozone.state.hasEnded
  | .leak => s.leak.state.hasEnded
  | .temperature => s.temperature.state.hasEnded
  | .notification => s.notices.ended

def loopNames : List LoopName :=
  [.ozone, .leak, .temperature, .notification]

def running (s : Monitor) : List LoopName :=
  if s.isStarted then loopNames.filter fun name => !s.hasEnded name else []

def exited (s : Monitor) : List LoopName :=
  if s.isStarted && s.isJoined then loopNames else []

/-!
## Commands

A command that is refused is not sent.
-/

def conclude (s : Monitor) (ticket : Nat) (outcome : Except Fault Unit) : Monitor :=
  { s with results := ⟨ticket, s.now, outcome⟩ :: s.results }

def sendOzone (s : Monitor) (command : Ozone.Command) : Except Fault Nat × Monitor :=
  match command.check s.config.maxOzoneMinutes with
  | .error fault => (.error fault, s)
  | .ok () =>
      match s.ozoneBox.send? ⟨command, s.nextTicket⟩ with
      | none => (.error .monitorStopped, s)
      | some ozoneBox =>
          (.ok s.nextTicket, { s with ozoneBox, nextTicket := s.nextTicket + 1 })

def sendTarget (s : Monitor) (command : Temperature.Command) : Except Fault Nat × Monitor :=
  match command.check with
  | .error fault => (.error fault, s)
  | .ok () =>
      match s.targetBox.send? ⟨command, s.nextTicket⟩ with
      | none => (.error .monitorStopped, s)
      | some targetBox =>
          (.ok s.nextTicket, { s with targetBox, nextTicket := s.nextTicket + 1 })

def send (s : Monitor) : Console.Order → Except Fault Nat × Monitor
  | .ozone command => s.sendOzone command
  | .target command => s.sendTarget command

def stopped (s : Monitor) (letters : List (Letter α)) : Monitor :=
  letters.foldl (fun s letter => s.conclude letter.ticket (.error .monitorStopped)) s

/-- Whatever has not been taken fails. -/
def closeOzoneBox (s : Monitor) : Monitor :=
  { s.stopped s.ozoneBox.pending with ozoneBox := .closed }

def closeTargetBox (s : Monitor) : Monitor :=
  { s.stopped s.targetBox.pending with targetBox := .closed }

end Monitor
end TubMonitor
