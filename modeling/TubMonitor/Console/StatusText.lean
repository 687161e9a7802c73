import TubMonitor.Monitor.Snapshot
import TubMonitor.Temperature.Basic

/-!
# Status text

The answer to the console's status command: six lines, each a label and a value in one
column.  Temperatures have one decimal place.
-/

namespace TubMonitor
namespace Console

def readingText : Option Float → String
  | none => "--"
  | some degrees => Temperature.degreesText degrees

/-- Minutes and two places of seconds, both cut towards zero and signed alike. -/
def remainingText (seconds : Int) : String :=
  let minutes := Int.tdiv seconds 60
  let rest := Int.tmod seconds 60
  let restRow :=
    if rest < 0 then '-' :: Decimal.zeroPadded 1 rest.natAbs else Decimal.zeroPadded 2 rest.natAbs
  Decimal.integerText minutes ++ "m " ++ String.ofList restRow ++ "s"

def ozoneText (state : Ozone.RunState) (remaining : Option Int) : String :=
  if state.running then
    let left := (remaining.map remainingText).getD ""
    "running, " ++ left ++ " left (" ++ state.status ++ ")"
  else
    "off (" ++ state.status ++ ")"

def leakText (present : Bool) (latest : Option Leak.Record) : String :=
  if present then
    match latest with
    | some record => "DETECTED since " ++ record.detected.dateClockText
    | none => "DETECTED"
  else
    "none"

def targetText : Option Temperature.Target → String
  | none => "none"
  | some target =>
      Temperature.degreesText target.degrees ++ (if target.active then " (watching)" else " (reached)")

def statusLines (s : Monitor.Snapshot) : List String :=
  [ "Water:  " ++ readingText s.water
  , "Room:   " ++ readingText s.room
  , "Sample: " ++ (s.sampled.map Time.Instant.clockText).getD "never"
  , "Ozone:  " ++ ozoneText s.ozone s.remaining
  , "Leak:   " ++ leakText s.leakPresent s.latestLeak
  , "Target: " ++ targetText s.target ]

def statusText (s : Monitor.Snapshot) : String :=
  String.intercalate "\n" (statusLines s)

/-!
## Help
-/

def helpLines : List String :=
  [ "Commands:"
  , "  ozone start <minutes>   start (or restart) an ozone run"
  , "  ozone stop              stop the current ozone run"
  , "  target <°F>             notify once when the water reaches this temperature"
  , "  target clear            stop watching the water temperature"
  , "  pump on|off|status      control or query the pump"
  , "  status                  show current readings and state"
  , "  help                    show this help"
  , "  quit                    shut down the monitor" ]

def helpText : String :=
  String.intercalate "\n" helpLines

end Console
end TubMonitor
