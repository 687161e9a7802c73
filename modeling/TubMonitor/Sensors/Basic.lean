import TubMonitor.Fault

/-!
# Sensors and relays

What the monitor asks of the tub: two temperatures at once, whether it leaks, and two
devices to switch, of which only the pump tells whether it is on.
-/

namespace TubMonitor
namespace Sensors

inductive Device where
  | pump
  | ozone
deriving DecidableEq, Repr

def Device.name : Device → String
  | pump => "pump"
  | ozone => "ozone"

/-- Each temperature is read or fails for itself. -/
structure Readings where
  room : Except Fault Float
  water : Except Fault Float

/-!
## Requests
-/

inductive Request where
  | temperatures
  | leak
  | pumpStatus
  | switch (device : Device) (on : Bool)
deriving DecidableEq, Repr

inductive Answer where
  | temperatures (readings : Readings)
  | level (outcome : Except Fault Bool)
  | switched (outcome : Except Fault Unit)

def Request.failed (fault : Fault) : Request → Answer
  | temperatures => .temperatures ⟨.error fault, .error fault⟩
  | leak => .level (.error fault)
  | pumpStatus => .level (.error fault)
  | switch _ _ => .switched (.error fault)

/-!
## Power
-/

structure Power where
  pump : Bool
  ozone : Bool
deriving DecidableEq, Repr

namespace Power

def off : Power :=
  ⟨false, false⟩

def get (p : Power) : Device → Bool
  | .pump => p.pump
  | .ozone => p.ozone

def set (p : Power) (device : Device) (on : Bool) : Power :=
  match device with
  | .pump => { p with pump := on }
  | .ozone => { p with ozone := on }

@[simp] theorem get_set_self (p : Power) (device : Device) (on : Bool) :
    (p.set device on).get device = on := by
  cases device <;> rfl

theorem get_set_other (p : Power) {device other : Device} (h : other ≠ device) (on : Bool) :
    (p.set device on).get other = p.get other := by
  cases device <;> cases other <;> first | rfl | exact absurd rfl h

end Power

end Sensors
end TubMonitor
