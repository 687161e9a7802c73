import TubMonitor.CommandLine
import TubMonitor.Decimal.Literal
import TubMonitor.Settings.Basic

/-!
# The monitor's command line

Every setting has a long option.  Help and version have a letter as well and end the
reading of the command line.
-/

namespace TubMonitor
namespace Settings

open CommandLine (Cause Rejection Grammar)

inductive Argument where
  | sensors
  | store
  | databasePath
  | temperatureInterval
  | leakInterval
  | targetTolerance
  | maxOzoneMinutes
  | notifier
  | notificationSubject
  | deviceRoot
  | roomSensor
  | waterSensor
  | leakPin
  | pumpPin
  | ozonePin
  | leakActiveLow
  | logLevel
  | logFile
  | debug
  | clear
  | help
  | version
deriving DecidableEq, Repr

namespace Argument

def all : List Argument :=
  [ sensors, store, databasePath, temperatureInterval, leakInterval, targetTolerance
  , maxOzoneMinutes, notifier, notificationSubject, deviceRoot, roomSensor, waterSensor
  , leakPin, pumpPin, ozonePin, leakActiveLow, logLevel, logFile, debug, clear, help
  , version ]

def name : Argument → String
  | sensors => "sensors"
  | store => "store"
  | databasePath => "db-path"
  | temperatureInterval => "temperature-interval"
  | leakInterval => "leak-interval"
  | targetTolerance => "target-tolerance"
  | maxOzoneMinutes => "max-ozone-minutes"
  | notifier => "notifier"
  | notificationSubject => "notification-subject"
  | deviceRoot => "sysfs-root"
  | roomSensor => "room-sensor"
  | waterSensor => "water-sensor"
  | leakPin => "leak-pin"
  | pumpPin => "pump-pin"
  | ozonePin => "ozone-pin"
  | leakActiveLow => "leak-active-low"
  | logLevel => "log-level"
  | logFile => "log-file"
  | debug => "debug"
  | clear => "clear"
  | help => "help"
  | version => "version"

def takesValue : Argument → Bool
  | leakActiveLow | debug | clear | help | version => false
  | _ => true

def placeholder (a : Argument) : String :=
  String.ofList (a.name.toList.map fun c => if c = '-' then '_' else c.toUpper)

def label (a : Argument) : String :=
  if a.takesValue then
    "--" ++ a.name ++ " <" ++ a.placeholder ++ ">"
  else
    "--" ++ a.name

def lettered? : Char → Option Argument
  | 'h' => some help
  | 'V' => some version
  | _ => none

/-!
## Values
-/

def refuse (a : Argument) (cause : Cause) : Except Rejection α :=
  .error ⟨cause, some a.label⟩

def text (value : OsText) : Except Rejection String :=
  match value.text? with
  | some text => .ok text
  | none => .error ⟨.invalidText, none⟩

def word (a : Argument) (allowed : List String) (value : OsText) : Except Rejection String := do
  let word ← text value
  if word ∈ allowed then .ok word else a.refuse .invalidValue

def path (a : Argument) (value : OsText) : Except Rejection OsText :=
  if value.isEmpty then a.refuse .invalidValue else .ok value

def seconds (a : Argument) (limit : Nat) (value : OsText) : Except Rejection Nat := do
  let literal ← text value
  match Decimal.natural (Nat.pow 2 64 - 1) literal.toList with
  | .ok n => if 1 ≤ n ∧ n ≤ limit then .ok n else a.refuse .valueValidation
  | .error _ => a.refuse .valueValidation

/-- A signed literal whose value lies in the range; minus zero is zero. -/
def count (a : Argument) (low high : Nat) (value : OsText) : Except Rejection Nat := do
  let literal ← text value
  match Decimal.integer (Nat.pow 2 63 - 1) literal.toList with
  | .ok n => if low ≤ n ∧ n ≤ high then .ok n.toNat else a.refuse .valueValidation
  | .error _ => a.refuse .valueValidation

def number (a : Argument) (value : OsText) : Except Rejection Float := do
  let literal ← text value
  match Decimal.float? literal.toList with
  | some x => .ok x
  | none => a.refuse .valueValidation

def pinLimit : Nat := Nat.pow 2 32 - 1

/-!
## Taking an option
-/

def isGiven : Argument → Given → Bool
  | sensors, g => g.sensors.isSome
  | store, g => g.store.isSome
  | databasePath, g => g.databasePath.isSome
  | temperatureInterval, g => g.temperatureInterval.isSome
  | leakInterval, g => g.leakInterval.isSome
  | targetTolerance, g => g.targetTolerance.isSome
  | maxOzoneMinutes, g => g.maxOzoneMinutes.isSome
  | notifier, g => g.notifier.isSome
  | notificationSubject, g => g.notificationSubject.isSome
  | deviceRoot, g => g.deviceRoot.isSome
  | roomSensor, g => g.roomSensor.isSome
  | waterSensor, g => g.waterSensor.isSome
  | leakPin, g => g.leakPin.isSome
  | pumpPin, g => g.pumpPin.isSome
  | ozonePin, g => g.ozonePin.isSome
  | leakActiveLow, g => g.leakActiveLow
  | logLevel, g => g.logLevel.isSome
  | logFile, g => g.logFile.isSome
  | debug, g => g.debug
  | clear, g => g.clear
  | help, _ => false
  | version, _ => false

def levels : List String :=
  ["DEBUG", "INFO", "WARNING", "ERROR", "CRITICAL"]

def apply (a : Argument) (value : OsText) (g : Given) : Except Rejection Given :=
  match a with
  | sensors => do .ok { g with sensors := ← a.word ["simulated", "sysfs"] value }
  | store => do .ok { g with store := ← a.word ["memory", "sqlite"] value }
  | databasePath => do .ok { g with databasePath := ← a.path value }
  | temperatureInterval => do
      .ok { g with temperatureInterval := ← a.seconds temperatureIntervalLimit value }
  | leakInterval => do .ok { g with leakInterval := ← a.seconds leakIntervalLimit value }
  | targetTolerance => do .ok { g with targetTolerance := ← a.number value }
  | maxOzoneMinutes => do .ok { g with maxOzoneMinutes := ← a.count 1 ozoneMinutesLimit value }
  | notifier => do .ok { g with notifier := ← a.word ["log", "none"] value }
  | notificationSubject => do .ok { g with notificationSubject := ← text value }
  | deviceRoot => do .ok { g with deviceRoot := ← a.path value }
  | roomSensor => do .ok { g with roomSensor := ← text value }
  | waterSensor => do .ok { g with waterSensor := ← text value }
  | leakPin => do .ok { g with leakPin := ← a.count 0 pinLimit value }
  | pumpPin => do .ok { g with pumpPin := ← a.count 0 pinLimit value }
  | ozonePin => do .ok { g with ozonePin := ← a.count 0 pinLimit value }
  | leakActiveLow => .ok { g with leakActiveLow := true }
  | logLevel => do .ok { g with logLevel := ← a.word levels value }
  | logFile => do .ok { g with logFile := ← a.path value }
  | debug => .ok { g with debug := true }
  | clear => .ok { g with clear := true }
  | help => .error ⟨.helpRequest, none⟩
  | version => .error ⟨.versionRequest, none⟩

end Argument

def grammar : Grammar Argument Given where
  named? name := Argument.all.find? fun a => a.name == name
  lettered? := Argument.lettered?
  takesValue := Argument.takesValue
  label := Argument.label
  isGiven := Argument.isGiven
  apply := Argument.apply

def Given.read (arguments : List OsText) : Except Rejection Given :=
  grammar.read {} arguments

end Settings
end TubMonitor
