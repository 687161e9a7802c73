import TubMonitor.Monitor.Clock
import TubMonitor.Settings.Arguments
import TubMonitor.Settings.Saved

/-!
# The program

From a command line to a monitor: the settings are resolved and saved, directories and
the log file are made, the settings are validated, and the store is opened.  Whatever
fails on the way ends the program with its reason.
-/

namespace TubMonitor

/-!
## Log levels

The five level names are known in any case and stand for the four words of a log
filter.  Any other text is taken for a filter as it is.
-/

namespace Logging

/-- The capital letter of a character, where it is one that the level names can hold. -/
def capital (c : Char) : Char :=
  if c = 'ı' then 'I' else c.toUpper

def directive (level : String) : String :=
  match String.ofList (level.toList.map capital) with
  | "DEBUG" => "debug"
  | "INFO" => "info"
  | "WARNING" => "warn"
  | "ERROR" => "error"
  | "CRITICAL" => "error"
  | _ => level

end Logging

namespace Program

/-!
## Circumstances
-/

def name : String := "coldplunge"

def version : String := "1.0.0"

structure Circumstances where
  tree : FileTree
  home : OsText
  /-- Milliseconds since 1970. -/
  now : Nat

/-!
## Ending early
-/

inductive Halt where
  | rejected (rejection : CommandLine.Rejection)
  | failed (fault : Fault)
deriving DecidableEq, Repr

def versionText : String :=
  name ++ " " ++ version

def usageLines : List String :=
  ("Usage: " ++ name ++ " [OPTIONS]") :: "" :: "Options:" ::
    Settings.Argument.all.map fun argument => "  " ++ argument.label

namespace Halt

def code : Halt → Nat
  | rejected ⟨.helpRequest, _⟩ => 0
  | rejected ⟨.versionRequest, _⟩ => 0
  | rejected _ => 2
  | failed _ => 1

def output : Halt → List String
  | rejected ⟨.helpRequest, _⟩ => usageLines
  | rejected ⟨.versionRequest, _⟩ => [versionText]
  | _ => []

def fault? : Halt → Option Fault
  | failed fault => some fault
  | rejected _ => none

end Halt

/-!
## Preparation
-/

def orHalt (r : Except (OsError × FileTree) FileTree) : Except (Halt × FileTree) FileTree :=
  r.mapError fun (fault, left) => (.failed (.io fault), left)

def houseIn (t : FileTree) (home : OsText) : Except (Halt × FileTree) FileTree := do
  let own := FileTree.join home Settings.directoryName
  let housed ← orHalt (t.ensureDirectories (FileTree.components own))
  orHalt (housed.ensureDirectories (FileTree.components (FileTree.join own "logs")))

def openLog (t : FileTree) : Option OsText → Except (Halt × FileTree) FileTree
  | none => .ok t
  | some path => do
      let housed ← orHalt (t.ensureDirectories (FileTree.parentNames path))
      orHalt ((housed.touch path).mapError fun fault => (fault, housed))

def wiring (s : Settings) (room water : String) : Sensors.Wiring :=
  { root := s.deviceRoot
    roomProbe := room
    waterProbe := water
    leakPin := s.leakPin
    pumpPin := s.pumpPin
    ozonePin := s.ozonePin
    leakActiveLow := s.leakActiveLow }

/-- Sensors of any other name are the simulated tub. -/
def bank (s : Settings) (t : FileTree) : Sensors.Bank :=
  match s.sensors, s.roomSensor, s.waterSensor with
  | "sysfs", some room, some water => .files (wiring s room water) t
  | _, _, _ => .tub .standard

/-- A store of any other name is a database. -/
def openStore (s : Settings) (home : OsText) (t : FileTree) :
    Except (Halt × FileTree) (Store × FileTree) :=
  match s.store with
  | "memory" => .ok (.memory .empty, t)
  | _ =>
      match Store.Database.openFile t (s.databaseFile home) with
      | (opened, .ok ()) => .ok (.database .empty, opened)
      | (left, .error fault) => .error (.failed fault, left)

def config (s : Settings) : Monitor.Config :=
  { temperaturePeriod := 1000 * s.temperatureInterval
    leakPeriod := 1000 * s.leakInterval
    tolerance := s.targetTolerance
    maxOzoneMinutes := s.maxOzoneMinutes
    subject := s.notificationSubject }

/-- Messages go to the log at once, unless there is to be no sink. -/
def sink (s : Settings) : Option Notice.Sink :=
  match s.notifier with
  | "none" => none
  | _ => some { delay := 0, fault := fun _ => none }

structure Ready where
  settings : Settings
  monitor : Monitor
  tree : FileTree

def assemble (s : Settings) (home : OsText) (now : Nat) (t : FileTree) :
    Except (Halt × FileTree) Ready := do
  let housed ← houseIn t home
  let logged ← openLog housed s.logFile
  match s.validate with
  | .error fault => .error (.failed fault, logged)
  | .ok () =>
      let (store, opened) ← openStore s home logged
      let outside : Monitor.Outside := { bank := bank s opened, store, conditions := .fair }
      .ok
        { settings := s
          monitor := Monitor.assemble (config s) now outside (sink s)
          tree := opened }

def prepare (arguments : List OsText) (c : Circumstances) :
    Except (Halt × FileTree) Ready :=
  match Settings.Given.read arguments with
  | .error rejection => .error (.rejected rejection, c.tree)
  | .ok given =>
      let (saved, settings) := Settings.invoke given c.home c.tree
      assemble settings c.home c.now saved

/-!
## A whole run
-/

def greeting : String :=
  "Cold plunge monitor running. Type 'help' for commands."

structure Outcome where
  code : Nat
  output : List String
  fault : Option Fault
  tree : FileTree
  /-- The store as it was left, if the monitor came to run. -/
  store : Option (Settings × Store)

/-- The device files are in the tree that the sensors have seen last. -/
def treeAfter (ready : Ready) (m : Monitor) : FileTree :=
  match m.outside.bank with
  | .files _ tree => tree
  | _ => ready.tree

def run (arguments : List OsText) (lines : List String) (c : Circumstances) : Outcome :=
  match prepare arguments c with
  | .error (halt, tree) =>
      { code := halt.code
        output := halt.output
        fault := halt.fault?
        tree
        store := none }
  | .ok ready =>
      let (_, started) := ready.monitor.start
      let (replies, served) := (started.advance 0).converse lines
      let stopped := served.cancelAndWait
      { code := 0
        output := greeting :: replies
        fault := none
        tree := treeAfter ready stopped
        store := some (ready.settings, stopped.outside.store) }

end Program
end TubMonitor
