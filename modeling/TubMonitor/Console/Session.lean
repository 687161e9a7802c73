import TubMonitor.Console.Command
import TubMonitor.Console.StatusText
import TubMonitor.Ozone.Controller
import TubMonitor.Temperature.Sampler

/-!
# The console

Lines are taken one after the other, each only when the command before it is done
with.  Every line that is not blank prints one reply, and a failure is a reply like
any other.  The first line that asks to quit ends the console.
-/

namespace TubMonitor
namespace Console

open Monitor (Call Reply Snapshot)

inductive Order where
  | ozone (command : Ozone.Command)
  | target (command : Temperature.Command)
deriving DecidableEq, Repr

inductive Phase where
  | ready
  /-- An order has been given; its success will be told in these words. -/
  | ordering (success : String)
  | calling (action : PumpAction)
  | finished
deriving DecidableEq, Repr

structure Session where
  lines : List String
  phase : Phase
deriving DecidableEq, Repr

inductive Event where
  /-- The next line is taken, with the monitor in the state shown. -/
  | next (snapshot : Snapshot)
  | ordered (outcome : Except Fault Unit)
  | reply (reply : Reply)

inductive Effect where
  | order (order : Order)
  | call (request : Call)
  | print (text : String)
deriving DecidableEq, Repr

namespace Session

def start (lines : List String) : Session :=
  ⟨lines, .ready⟩

/-!
## Replies
-/

def errorText (text : String) : String :=
  "error: " ++ text

def refusalText (refusal : Refusal) : String :=
  errorText (refusal.message ++ " (type 'help')")

def outcomeText (success : String) : Except Fault Unit → String
  | .ok () => success
  | .error fault => errorText fault.message

def pumpText (on : Bool) : String :=
  if on then "Pump is on" else "Pump is off"

def levelText : Except Fault Bool → String
  | .ok on => pumpText on
  | .error fault => errorText fault.message

def leakText : String :=
  errorText "leak present; pump stays off"

def switchText : PumpAction → String
  | .on => "Pump on"
  | .off => "Pump off"
  | .status => ""

/-!
## Carrying out a command
-/

def order (s : Session) (order : Order) (success : String) : Session × List Effect :=
  ({ s with phase := .ordering success }, [.order order])

def switchPump (s : Session) (action : PumpAction) (on : Bool) : Session × List Effect :=
  ({ s with phase := .calling action }, [.call (.sensors (.switch .pump on))])

def execute (s : Session) (snapshot : Snapshot) : Command → Session × List Effect
  | .ozoneStart minutes =>
      s.order (.ozone (.start minutes))
        ("Ozone started for " ++ toString minutes ++ " minutes")
  | .ozoneStop => s.order (.ozone .stop) "Ozone stopped"
  | .target degrees =>
      s.order (.target (some degrees))
        ("Watching for water at " ++ Temperature.degreesText degrees)
  | .clearTarget => s.order (.target none) "Target cleared"
  | .pump .on =>
      if snapshot.leakPresent then (s, [.print leakText]) else s.switchPump .on true
  | .pump .off => s.switchPump .off false
  | .pump .status => ({ s with phase := .calling .status }, [.call (.sensors .pumpStatus)])
  | .status => (s, [.print (statusText snapshot)])
  | .help => (s, [.print helpText])
  | .quit => ({ s with phase := .finished }, [])

def take (s : Session) (snapshot : Snapshot) (line : String) : Session × List Effect :=
  if Text.isBlankLine line.toList then
    (s, [])
  else
    match Command.read line with
    | .ok command => s.execute snapshot command
    | .error refusal => (s, [.print (refusalText refusal)])

/-!
## Steps
-/

def step (s : Session) (event : Event) : Session × List Effect :=
  match s.phase, event with
  | .ready, .next snapshot =>
      match s.lines with
      | [] => (s, [])
      | line :: rest => take { s with lines := rest } snapshot line
  | .ordering success, .ordered outcome =>
      ({ s with phase := .ready }, [.print (outcomeText success outcome)])
  | .calling action, .reply (.sensors (.switched outcome)) =>
      ({ s with phase := .ready }, [.print (outcomeText (switchText action) outcome)])
  | .calling _, .reply (.sensors (.level outcome)) =>
      ({ s with phase := .ready }, [.print (levelText outcome)])
  | _, _ => (s, [])

def hasFinished (s : Session) : Bool :=
  match s.phase with
  | .finished => true
  | _ => false

end Session
end Console
end TubMonitor
