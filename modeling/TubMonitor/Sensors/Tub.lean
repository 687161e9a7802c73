import TubMonitor.Sensors.Basic

/-!
# The simulated tub

Every reading of the temperatures moves the water one step: towards the chill
temperature while the pump runs, towards the room otherwise, and never past it.
-/

namespace TubMonitor
namespace Sensors

structure Tub where
  room : Float
  water : Float
  chill : Float
  leak : Bool
  power : Power
deriving DecidableEq

namespace Tub

def filled (room water chill : Float) : Tub :=
  { room, water, chill, leak := false, power := .off }

def standard : Tub :=
  filled 72.0 58.0 45.0

/-- A difference cut to at most one step; one that is no number stays as it is. -/
def cut (step difference : Float) : Float :=
  let raised := if difference < -step then -step else difference
  if step < raised then step else raised

def drift (t : Tub) : Tub :=
  let change :=
    if t.power.pump then cut 0.25 (t.chill - t.water) else cut 0.05 (t.room - t.water)
  { t with water := t.water + change }

def readings (t : Tub) : Readings :=
  ⟨.ok t.room, .ok t.water⟩

def switch (t : Tub) (device : Device) (on : Bool) : Tub :=
  { t with power := t.power.set device on }

end Tub
end Sensors
end TubMonitor
