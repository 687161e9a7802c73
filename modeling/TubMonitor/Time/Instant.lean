import TubMonitor.Time.Calendar

/-!
# Instants

An instant is a count of seconds from 1970-01-01T00:00:00Z, in which every day has
86400 of them, and nanoseconds within the second.  A leap second has no count of its
own: it continues the second before it with nanoseconds from one thousand million on.
-/

namespace TubMonitor
namespace Time

structure Instant where
  second : Int
  nano : Nat
deriving DecidableEq, Repr

namespace Instant

def nanosPerSecond : Nat := 1000000000

/-!
## The range of the calendar
-/

def firstSecond : Int := -8334601228800

def lastSecond : Int := 8210266876799

def inCalendar (t : Instant) : Bool :=
  firstSecond ≤ t.second && t.second ≤ lastSecond

/-!
## Arithmetic
-/

def ofMillis (millis : Int) : Instant :=
  { second := millis / 1000
    nano := (millis % 1000).toNat * 1000000 }

/-- Going on by a positive time leaves a leap second. -/
def addMinutes (t : Instant) (minutes : Nat) : Instant :=
  { second := t.second + 60 * minutes
    nano := if 0 < minutes ∧ nanosPerSecond ≤ t.nano then t.nano - nanosPerSecond else t.nano }

/-- The same, where the result lies inside the calendar. -/
def addMinutes? (t : Instant) (minutes : Nat) : Option Instant :=
  let sum := t.addMinutes minutes
  if sum.inCalendar then some sum else none

def secondOfDay (t : Instant) : Int :=
  t.second % 86400

/-- A leap second counts for a later time of day only once it has ended. -/
def leapAdjustment (later earlier : Instant) : Int :=
  if earlier.secondOfDay < later.secondOfDay ∧ nanosPerSecond ≤ earlier.nano then
    1
  else if later.secondOfDay < earlier.secondOfDay ∧ nanosPerSecond ≤ later.nano then
    -1
  else
    0

/-- The nanoseconds from the second instant to the first. -/
def since (later earlier : Instant) : Int :=
  (later.second - earlier.second + leapAdjustment later earlier) * nanosPerSecond +
    ((later.nano : Int) - earlier.nano)

/-!
## Parts of the day
-/

def date (t : Instant) : Date :=
  Date.ofDays (t.second / 86400)

def hour (t : Instant) : Nat :=
  (t.secondOfDay / 3600).toNat

def minute (t : Instant) : Nat :=
  (t.secondOfDay / 60 % 60).toNat

/-- The second shown on a clock face: sixty within a leap second. -/
def shownSecond (t : Instant) : Nat :=
  (t.secondOfDay % 60).toNat + t.nano / nanosPerSecond

def fraction (t : Instant) : Nat :=
  t.nano % nanosPerSecond

end Instant

end Time
end TubMonitor
