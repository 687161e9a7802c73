import TubMonitor.Sensors.DeviceFiles
import TubMonitor.Sensors.Script
import TubMonitor.Sensors.Tub

/-!
# A bank of sensors

One of the three ways in which the monitor meets a tub.  Device files are looked at
in the tree as it stands.
-/

namespace TubMonitor
namespace Sensors

inductive Bank where
  | script (s : Script)
  | tub (t : Tub)
  | files (wiring : Wiring) (tree : FileTree)

namespace Bank

def readings : Bank → Readings × Bank
  | script s =>
      let (found, rest) := s.readings
      (found, script rest)
  | tub t =>
      let drifted := t.drift
      (drifted.readings, tub drifted)
  | files wiring tree => (wiring.readings tree, files wiring tree)

def leak : Bank → Except Fault Bool × Bank
  | script s =>
      let (found, rest) := s.readLeak
      (found, script rest)
  | tub t => (.ok t.leak, tub t)
  | files wiring tree => (wiring.leak tree, files wiring tree)

def isPumpOn : Bank → Except Fault Bool
  | script s => .ok s.power.pump
  | tub t => .ok t.power.pump
  | files wiring tree => wiring.isOn tree .pump

def switch (device : Device) (on : Bool) : Bank → Except Fault Unit × Bank
  | script s => (.ok (), script (s.switch device on))
  | tub t => (.ok (), tub (t.switch device on))
  | files wiring tree =>
      match wiring.switch tree device on with
      | .ok switched => (.ok (), files wiring switched)
      | .error fault => (.error fault, files wiring tree)

def answer (b : Bank) : Request → Answer × Bank
  | .temperatures =>
      let (readings, next) := b.readings
      (.temperatures readings, next)
  | .leak =>
      let (outcome, next) := b.leak
      (.level outcome, next)
  | .pumpStatus => (.level b.isPumpOn, b)
  | .switch device on =>
      let (outcome, next) := b.switch device on
      (.switched outcome, next)

/-- What is powered, where the bank knows without asking a line. -/
def power? : Bank → Option Power
  | script s => some s.power
  | tub t => some t.power
  | files _ _ => none

end Bank
end Sensors
end TubMonitor
