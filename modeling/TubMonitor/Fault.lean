import TubMonitor.OsError
import TubMonitor.OsText

/-!
# Faults

Everything that can go wrong in the monitor, by cause.  `message` words each fault
and `source?` is the wording of what lies behind it, where it has something behind
it that its own message does not stand for.
-/

namespace TubMonitor

inductive Fault where
  /-- A sensor could not be read. -/
  | sensor (sensor message : String)
  /-- A device could not be switched. -/
  | actuator (device message : String)
  /-- The store failed. -/
  | storage (message : String)
  /-- A row that should be in the store is not. -/
  | notFound (row : String)
  /-- A message could not be delivered. -/
  | notification (message : String)
  /-- A command was refused before it reached its loop. -/
  | invalidCommand (message : String)
  | alreadyStarted
  /-- The loop that owns a command's channel has ended or will never begin. -/
  | monitorStopped
  /-- A setting is missing or out of range. -/
  | configuration (message : String)
  /-- A device file could not be read or written. -/
  | deviceFile (path : OsText) (error : OsError)
  /-- A document could not be read or written. -/
  | document (message : String)
  | io (error : OsError)
  /-- A failure from elsewhere, with the failures behind it. -/
  | other (message : String) (causes : List String)
deriving DecidableEq, Repr

namespace Fault

def message : Fault → String
  | sensor name text => "Sensor read failed (" ++ name ++ "): " ++ text
  | actuator device text => "Actuator " ++ device ++ " failed: " ++ text
  | storage text => "Storage error: " ++ text
  | notFound row => "Record not found: " ++ row
  | notification text => "Notification delivery failed: " ++ text
  | invalidCommand text => "Invalid command: " ++ text
  | alreadyStarted => "Monitor already started"
  | monitorStopped => "Monitor is not running"
  | configuration text => "Configuration error: " ++ text
  | deviceFile path error => "Device file " ++ path.shown ++ ": " ++ error.message
  | document text => "Failed to parse JSON: " ++ text
  | io error => error.message
  | other text _ => text

def source? : Fault → Option String
  | deviceFile _ error => some error.message
  | document text => some text
  | other _ causes => causes.head?
  | _ => none

end Fault

end TubMonitor
