import TubMonitor.Time.Instant

/-!
# Tickers

The monitor counts time in whole milliseconds.  A ticker is due at once and then once
a period.  A tick that is taken late moves the ones after it: the next is due a whole
period after it was taken, so a delay is never made up for.
-/

namespace TubMonitor
namespace Time

/-- The instant of a moment, which is a count of milliseconds since 1970. -/
def instantOf (now : Nat) : Instant :=
  Instant.ofMillis (now : Int)

def millisPerMinute : Nat := 60000

structure Ticker where
  period : Nat
  due : Nat
deriving DecidableEq, Repr

namespace Ticker

/-- There is no ticker without a period. -/
def start? (period : Nat) (now : Nat) : Option Ticker :=
  if period = 0 then none else some ⟨period, now⟩

/-- How late a tick may be taken for the ones after it to stay where they are. -/
def tolerance : Nat := 5

def isDue (t : Ticker) (now : Nat) : Bool :=
  t.due ≤ now

def take (t : Ticker) (now : Nat) : Ticker :=
  if t.due + tolerance < now then
    { t with due := now + t.period }
  else
    { t with due := t.due + t.period }

end Ticker
end Time
end TubMonitor
