import TubMonitor.Decimal.Layout
import TubMonitor.Fault

/-!
# Settings

What a run of the monitor is configured with.  A value comes from the command line,
or else from the configuration that an earlier run saved, or else is the default;
`Settings.resolve` is that rule.  Only values that belong to the installation are
saved.
-/

namespace TubMonitor

structure Settings where
  sensors : String
  store : String
  databasePath : Option OsText
  /-- Seconds between two temperature samples. -/
  temperatureInterval : Nat
  /-- Seconds between two looks at the leak detector. -/
  leakInterval : Nat
  /-- How far from a target the water counts as having reached it. -/
  targetTolerance : Float
  maxOzoneMinutes : Nat
  notifier : String
  notificationSubject : String
  deviceRoot : OsText
  roomSensor : Option String
  waterSensor : Option String
  leakPin : Nat
  pumpPin : Nat
  ozonePin : Nat
  leakActiveLow : Bool
  logLevel : String
  logFile : Option OsText
  debug : Bool
  clear : Bool
deriving DecidableEq

namespace Settings

/-!
## Where values come from
-/

/-- What one command line says outright. -/
structure Given where
  sensors : Option String := none
  store : Option String := none
  databasePath : Option OsText := none
  temperatureInterval : Option Nat := none
  leakInterval : Option Nat := none
  targetTolerance : Option Float := none
  maxOzoneMinutes : Option Nat := none
  notifier : Option String := none
  notificationSubject : Option String := none
  deviceRoot : Option OsText := none
  roomSensor : Option String := none
  waterSensor : Option String := none
  leakPin : Option Nat := none
  pumpPin : Option Nat := none
  ozonePin : Option Nat := none
  leakActiveLow : Bool := false
  logLevel : Option String := none
  logFile : Option OsText := none
  debug : Bool := false
  clear : Bool := false
deriving DecidableEq

/-- What is kept from one run to the next. -/
structure Saved where
  sensors : Option String := none
  store : Option String := none
  databasePath : Option OsText := none
  temperatureInterval : Option Nat := none
  leakInterval : Option Nat := none
  notifier : Option String := none
  roomSensor : Option String := none
  waterSensor : Option String := none
  leakPin : Option Nat := none
  pumpPin : Option Nat := none
  ozonePin : Option Nat := none
deriving DecidableEq, Repr

def choose (given saved : Option α) (default : α) : α :=
  (given <|> saved).getD default

/-- Debugging stands for its own level of logging. -/
def resolve (given : Given) (saved : Saved) : Settings where
  sensors := choose given.sensors saved.sensors "simulated"
  store := choose given.store saved.store "sqlite"
  databasePath := given.databasePath <|> saved.databasePath
  temperatureInterval := choose given.temperatureInterval saved.temperatureInterval 30
  leakInterval := choose given.leakInterval saved.leakInterval 5
  targetTolerance := given.targetTolerance.getD 0.5
  maxOzoneMinutes := given.maxOzoneMinutes.getD 120
  notifier := choose given.notifier saved.notifier "log"
  notificationSubject := given.notificationSubject.getD "Cold Plunge"
  deviceRoot := given.deviceRoot.getD "/sys"
  roomSensor := given.roomSensor <|> saved.roomSensor
  waterSensor := given.waterSensor <|> saved.waterSensor
  leakPin := choose given.leakPin saved.leakPin 17
  pumpPin := choose given.pumpPin saved.pumpPin 27
  ozonePin := choose given.ozonePin saved.ozonePin 22
  leakActiveLow := given.leakActiveLow
  logLevel := if given.debug then "DEBUG" else given.logLevel.getD "INFO"
  logFile := given.logFile
  debug := given.debug
  clear := given.clear

def toSaved (s : Settings) : Saved where
  sensors := some s.sensors
  store := some s.store
  databasePath := s.databasePath
  temperatureInterval := some s.temperatureInterval
  leakInterval := some s.leakInterval
  notifier := some s.notifier
  roomSensor := s.roomSensor
  waterSensor := s.waterSensor
  leakPin := some s.leakPin
  pumpPin := some s.pumpPin
  ozonePin := some s.ozonePin

/-!
## Ranges
-/

def temperatureIntervalLimit : Nat := 3600

def leakIntervalLimit : Nat := 600

def ozoneMinutesLimit : Nat := 1440

/-!
## Validation

A saved value does not pass the command line's checks, so the ranges are looked at
again, one after the other.
-/

def outOfRange (what unit : String) (limit value : Nat) : Fault :=
  .configuration
    (what ++ " must be 1-" ++ toString limit ++ unit ++ ", got " ++ toString value)

def checkRange (what unit : String) (limit value : Nat) : Except Fault Unit :=
  if 1 ≤ value ∧ value ≤ limit then .ok () else .error (outOfRange what unit limit value)

def checkProbes (s : Settings) : Except Fault Unit :=
  if s.sensors = "sysfs" ∧ (s.roomSensor.isNone ∨ s.waterSensor.isNone) then
    .error (.configuration "sysfs sensors require --room-sensor and --water-sensor")
  else
    .ok ()

def checkTolerance (tolerance : Float) : Except Fault Unit :=
  if !tolerance.isFinite || tolerance < 0.0 then
    .error (.configuration
      ("target tolerance must be a non-negative number, got "
        ++ Decimal.plain.text tolerance))
  else
    .ok ()

def validate (s : Settings) : Except Fault Unit := do
  s.checkProbes
  checkRange "temperature interval" " seconds" temperatureIntervalLimit s.temperatureInterval
  checkRange "leak interval" " seconds" leakIntervalLimit s.leakInterval
  checkRange "max ozone minutes" "" ozoneMinutesLimit s.maxOzoneMinutes
  checkTolerance s.targetTolerance

end Settings
end TubMonitor
