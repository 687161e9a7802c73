import TubMonitor.Sensors.Basic

/-!
# Scripted sensors

Each reading takes the next entry of its list, and the last entry stays.  A missing
entry is a failure.  A list that is empty from the start reads the same every time.
-/

namespace TubMonitor
namespace Sensors

structure Script where
  leak : List (Option Bool)
  room : List (Option Float)
  water : List (Option Float)
  power : Power

namespace Script

/-- The entry that counts now, and what is left for the next reading. -/
def next (default : α) : List (Option α) → Option α × List (Option α)
  | [] => (some default, [])
  | [entry] => (entry, [entry])
  | entry :: rest => (entry, rest)

def outcome (sensor : String) : Option α → Except Fault α
  | some value => .ok value
  | none => .error (.sensor sensor "scripted failure")

def readings (s : Script) : Readings × Script :=
  let (room, rooms) := next 72.0 s.room
  let (water, waters) := next 60.0 s.water
  (⟨outcome "room" room, outcome "water" water⟩, { s with room := rooms, water := waters })

def readLeak (s : Script) : Except Fault Bool × Script :=
  let (leak, leaks) := next false s.leak
  (outcome "leak" leak, { s with leak := leaks })

def switch (s : Script) (device : Device) (on : Bool) : Script :=
  { s with power := s.power.set device on }

end Script
end Sensors
end TubMonitor
