import TubMonitor.Text.Blank
import TubMonitor.Text.Case
import TubMonitor.Decimal.Literal

/-!
# Console commands

A line is split into words, which are compared in lower case.  A line that fits no
command is refused with its cause.
-/

namespace TubMonitor
namespace Console

inductive PumpAction where
  | on
  | off
  | status
deriving DecidableEq, Repr

inductive Command where
  | ozoneStart (minutes : Nat)
  | ozoneStop
  | target (degrees : Float)
  | clearTarget
  | pump (action : PumpAction)
  | status
  | help
  | quit
deriving DecidableEq, Repr

/-!
## Refusals
-/

inductive Refusal where
  | empty
  | invalidMinutes (word : String) (fault : Decimal.IntegerFault)
  | invalidTemperature (word : String)
  | unknown (line : String)
deriving DecidableEq, Repr

def Refusal.message : Refusal → String
  | .empty => "empty command"
  | .invalidMinutes word _ => "invalid minutes: " ++ word
  | .invalidTemperature word => "invalid temperature: " ++ word
  | .unknown line => "unknown command: " ++ line

def Refusal.causes : Refusal → List String
  | .invalidMinutes _ fault => [fault.message]
  | .invalidTemperature _ => ["invalid float literal"]
  | _ => []

/-!
## Reading a line
-/

/-- The longest run that can be asked for has as many minutes as fit 32 bits. -/
def largestMinutes : Nat := Nat.pow 2 32 - 1

def readMinutes (word : String) : Except Refusal Command :=
  match Decimal.natural largestMinutes word.toList with
  | .ok minutes => .ok (.ozoneStart minutes)
  | .error fault => .error (.invalidMinutes word fault)

def readTarget (word : String) : Except Refusal Command :=
  match Decimal.float? word.toList with
  | some degrees => .ok (.target degrees)
  | none => .error (.invalidTemperature word)

def lineWords (line : String) : List String :=
  (Text.words line.toList).map fun word => String.ofList (Text.lower word)

def ofWords (line : String) : List String → Except Refusal Command
  | ["ozone", "start", word] => readMinutes word
  | ["ozone", "stop"] => .ok .ozoneStop
  | ["target", "clear"] => .ok .clearTarget
  | ["target", "off"] => .ok .clearTarget
  | ["target", word] => readTarget word
  | ["pump", "on"] => .ok (.pump .on)
  | ["pump", "off"] => .ok (.pump .off)
  | ["pump", "status"] => .ok (.pump .status)
  | ["status"] => .ok .status
  | ["help"] => .ok .help
  | ["?"] => .ok .help
  | ["quit"] => .ok .quit
  | ["exit"] => .ok .quit
  | [] => .error .empty
  | _ => .error (.unknown (String.ofList (Text.trim line.toList)))

def Command.read (line : String) : Except Refusal Command :=
  ofWords line (lineWords line)

end Console
end TubMonitor
