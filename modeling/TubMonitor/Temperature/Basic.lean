import TubMonitor.Decimal.Layout
import TubMonitor.Time.Instant

/-!
# Temperatures

Temperatures are degrees Fahrenheit.  A sample is one row of readings, either of
which may be missing.  A target is a water temperature to wait for: it is armed until
it has been reached once.
-/

namespace TubMonitor
namespace Temperature

def ofCelsius (celsius : Float) : Float :=
  celsius * 9.0 / 5.0 + 32.0

/-- A temperature is shown to one tenth of a degree. -/
def degreesText (degrees : Float) : String :=
  Decimal.fixed 1 degrees ++ "°F"

structure Sample where
  id : Int
  room : Option Float
  water : Option Float
  taken : Time.Instant
deriving DecidableEq, Repr

structure Target where
  degrees : Float
  active : Bool
deriving DecidableEq, Repr

namespace Target

def armed (degrees : Float) : Target :=
  { degrees, active := true }

/-- Whether the water lies within the tolerance of the target; never for a NaN. -/
def isReached (t : Target) (water tolerance : Float) : Bool :=
  (water - t.degrees).abs <= tolerance

end Target

end Temperature
end TubMonitor
