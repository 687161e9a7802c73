import TubMonitor.FileTree.Access
import TubMonitor.Sensors.Basic
import TubMonitor.Sensors.Report
import TubMonitor.Temperature.Basic
import TubMonitor.Text.Blank
import TubMonitor.Text.Quoted

/-!
# Device files

The kernel shows each temperature probe as a file with its report and each line of
the controller as a file with its level.  A line is switched by writing its level.
-/

namespace TubMonitor
namespace Sensors

structure Wiring where
  root : OsText
  roomProbe : String
  waterProbe : String
  leakPin : Nat
  pumpPin : Nat
  ozonePin : Nat
  /-- The leak line is low when it is wet. -/
  leakActiveLow : Bool
deriving DecidableEq, Repr

namespace Wiring

/-!
## Paths
-/

def probeDirectory (root : OsText) : OsText :=
  FileTree.join (FileTree.join (FileTree.join root "bus") "w1") "devices"

def probePath (w : Wiring) (probe : String) : OsText :=
  FileTree.join (FileTree.join (probeDirectory w.root) probe) "w1_slave"

def linePath (w : Wiring) (pin : Nat) : OsText :=
  FileTree.join
    (FileTree.join (FileTree.join (FileTree.join w.root "class") "gpio")
      (OsText.ofString ("gpio" ++ toString pin)))
    "value"

def pin (w : Wiring) : Device → Nat
  | .pump => w.pumpPin
  | .ozone => w.ozonePin

/-!
## Temperatures
-/

def readProbe (w : Wiring) (t : FileTree) (sensor probe : String) : Except Fault Float :=
  let path := w.probePath probe
  match t.readText path with
  | .error fault => .error (.deviceFile path fault)
  | .ok text =>
      match Report.celsius text with
      | .ok celsius => .ok (Temperature.ofCelsius celsius)
      | .error problem => .error (.sensor sensor problem.message)

def readings (w : Wiring) (t : FileTree) : Readings :=
  ⟨w.readProbe t "room" w.roomProbe, w.readProbe t "water" w.waterProbe⟩

/-!
## Lines
-/

def level? (text : String) : Option Bool :=
  match Text.trim text.toList with
  | ['1'] => some true
  | ['0'] => some false
  | _ => none

def readLine (w : Wiring) (t : FileTree) (pin : Nat) : Except Fault Bool :=
  let path := w.linePath pin
  match t.readText path with
  | .error fault => .error (.deviceFile path fault)
  | .ok text =>
      match level? text with
      | some level => .ok level
      | none =>
          .error (.sensor "gpio"
            ("unexpected value " ++ Text.quoted (String.ofList (Text.trim text.toList))
              ++ " in " ++ path.shown))

def levelText (on : Bool) : String :=
  if on then "1" else "0"

def leak (w : Wiring) (t : FileTree) : Except Fault Bool :=
  match w.readLine t w.leakPin with
  | .ok level => .ok (level != w.leakActiveLow)
  | .error fault => .error fault

def isOn (w : Wiring) (t : FileTree) (device : Device) : Except Fault Bool :=
  w.readLine t (w.pin device)

def switch (w : Wiring) (t : FileTree) (device : Device) (on : Bool) :
    Except Fault FileTree :=
  let path := w.linePath (w.pin device)
  match t.writeText path (levelText on) with
  | .ok switched => .ok switched
  | .error fault => .error (.actuator device.name (path.shown ++ ": " ++ fault.message))

/-!
## Finding probes
-/

/-- The family of temperature probes bears this at the front of its ids. -/
def isProbe (name : String) : Bool :=
  ['2', '8', '-'].isPrefixOf name.toList

/-- The ids of the probes that the kernel shows, in order; none without a directory. -/
def discover (root : OsText) (t : FileTree) : List String :=
  match t.list (probeDirectory root) with
  | .ok names => (names.filterMap OsText.text?).filter isProbe
  | .error _ => []

end Wiring
end Sensors
end TubMonitor
