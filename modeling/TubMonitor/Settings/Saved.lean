import TubMonitor.FileTree.Access
import TubMonitor.Json.Printer
import TubMonitor.Json.Reader
import TubMonitor.Json.Slots
import TubMonitor.Settings.Basic

/-!
# The saved configuration

It is a document in the monitor's own directory below the home directory.  A new
version is written beside the old one first and then takes its name, so the old one
stays whole until the new one is.
-/

namespace TubMonitor
namespace Settings

def directoryName : OsText := ".coldplunge"

def documentName : OsText := "config.json"

def draftName : OsText := "config.json.tmp"

def configurationPath (home : OsText) : OsText :=
  FileTree.join (FileTree.join home directoryName) documentName

def draftPath (home : OsText) : OsText :=
  FileTree.join (FileTree.join home directoryName) draftName

def databaseFile (s : Settings) (home : OsText) : OsText :=
  s.databasePath.getD (FileTree.join (FileTree.join home directoryName) "coldplunge.db")

namespace Saved

/-!
## The document
-/

def names : List String :=
  [ "sensors", "store", "db_path", "temperature_interval", "leak_interval", "notifier"
  , "room_sensor", "water_sensor", "leak_pin", "pump_pin", "ozone_pin" ]

def textMember (name : String) (value : Option String) : Option (String × Json) :=
  value.map fun s => (name, Json.ofString s)

def countMember (name : String) (value : Option Nat) : Option (String × Json) :=
  value.map fun n => (name, Json.integer n)

/-- Absent values are left out.  A path that is no text has no document. -/
def toJson? (c : Saved) : Option Json := do
  let databasePath ← c.databasePath.mapM OsText.text?
  some (Json.object
    ([ textMember "sensors" c.sensors
     , textMember "store" c.store
     , textMember "db_path" databasePath
     , countMember "temperature_interval" c.temperatureInterval
     , countMember "leak_interval" c.leakInterval
     , textMember "notifier" c.notifier
     , textMember "room_sensor" c.roomSensor
     , textMember "water_sensor" c.waterSensor
     , countMember "leak_pin" c.leakPin
     , countMember "pump_pin" c.pumpPin
     , countMember "ozone_pin" c.ozonePin ].filterMap id))

def interval? (j : Json) : Option Nat :=
  j.natural? (Nat.pow 2 64 - 1)

def pin? (j : Json) : Option Nat :=
  j.natural? (Nat.pow 2 32 - 1)

def ofJson? (j : Json) : Option Saved := do
  match ← j.slots? names with
  | [sensors, store, databasePath, temperatureInterval, leakInterval, notifier,
      roomSensor, waterSensor, leakPin, pumpPin, ozonePin] =>
      let sensors ← Json.allowed? Json.string? sensors
      let store ← Json.allowed? Json.string? store
      let databasePath ← Json.allowed? Json.string? databasePath
      let temperatureInterval ← Json.allowed? interval? temperatureInterval
      let leakInterval ← Json.allowed? interval? leakInterval
      let notifier ← Json.allowed? Json.string? notifier
      let roomSensor ← Json.allowed? Json.string? roomSensor
      let waterSensor ← Json.allowed? Json.string? waterSensor
      let leakPin ← Json.allowed? pin? leakPin
      let pumpPin ← Json.allowed? pin? pumpPin
      let ozonePin ← Json.allowed? pin? ozonePin
      some
        { sensors, store, databasePath := databasePath.map OsText.ofString
          temperatureInterval, leakInterval, notifier
          roomSensor, waterSensor, leakPin, pumpPin, ozonePin }
  | _ => none

def text? (c : Saved) : Option String :=
  c.toJson?.map Json.pretty

def ofText? (text : String) : Option Saved :=
  (Json.read? text).bind ofJson?

/-!
## The file

Each of these answers the tree as it is afterwards, also where it fails.
-/

/-- What cannot be read is taken for an empty configuration. -/
def load (home : OsText) (t : FileTree) : Saved :=
  match t.readText (configurationPath home) with
  | .ok text => (ofText? text).getD {}
  | .error _ => {}

def untold : Fault :=
  .document "path contains invalid UTF-8 characters"

def save (c : Saved) (home : OsText) (t : FileTree) : FileTree × Except Fault Unit :=
  match t.ensureDirectories (FileTree.parentNames (configurationPath home)) with
  | .error (fault, left) => (left, .error (.io fault))
  | .ok housed =>
      match c.text? with
      | none => (housed, .error untold)
      | some text =>
          match housed.writeText (draftPath home) text with
          | .error fault => (housed, .error (.io fault))
          | .ok drafted =>
              match drafted.moveFile (draftPath home) (configurationPath home) with
              | .error fault => (drafted, .error (.io fault))
              | .ok saved => (saved, .ok ())

def clear (home : OsText) (t : FileTree) : FileTree × Except OsError Unit :=
  if t.contains (configurationPath home) then
    match t.removeFile (configurationPath home) with
    | .ok cleared => (cleared, .ok ())
    | .error fault => (t, .error fault)
  else
    (t, .ok ())

end Saved

/-!
## One invocation

Clearing takes no saved value and saves none.  Trouble with the file does not stop
the monitor.
-/

def invoke (given : Given) (home : OsText) (t : FileTree) : FileTree × Settings :=
  if given.clear then
    ((Saved.clear home t).1, resolve given {})
  else
    let settings := resolve given (Saved.load home t)
    ((settings.toSaved.save home t).1, settings)

end Settings
end TubMonitor
