import TubMonitor.Time.Instant
import TubMonitor.Decimal.Layout

/-!
# Written instants

Instants are written in the form of RFC 3339 in universal time.  The fraction has
three, six or nine digits, the fewest that lose nothing, and is left out where it is
zero.  Years before 0000 and after 9999 carry a sign.
-/

namespace TubMonitor
namespace Time

def yearRow (year : Int) : List Char :=
  let digits := Decimal.zeroPadded 4 year.natAbs
  if year < 0 then
    '-' :: digits
  else if 9999 < year then
    '+' :: digits
  else
    digits

def Date.row (d : Date) : List Char :=
  yearRow d.year ++ ['-'] ++ Decimal.zeroPadded 2 d.month ++ ['-'] ++ Decimal.zeroPadded 2 d.day

def fractionRow (nanos : Nat) : List Char :=
  if nanos = 0 then
    []
  else if nanos % 1000000 = 0 then
    '.' :: Decimal.zeroPadded 3 (nanos / 1000000)
  else if nanos % 1000 = 0 then
    '.' :: Decimal.zeroPadded 6 (nanos / 1000)
  else
    '.' :: Decimal.zeroPadded 9 nanos

namespace Instant

def clockRow (t : Instant) : List Char :=
  Decimal.zeroPadded 2 t.hour ++ [':'] ++ Decimal.zeroPadded 2 t.minute ++ [':'] ++
    Decimal.zeroPadded 2 t.shownSecond

/-- Date, separator, time of day with its fraction, zone. -/
def stampRow (separator : Char) (zone : List Char) (t : Instant) : List Char :=
  t.date.row ++ [separator] ++ t.clockRow ++ fractionRow t.fraction ++ zone

def stamp (t : Instant) : String :=
  String.ofList (stampRow 'T' ['Z'] t)

def cellStamp (t : Instant) : String :=
  String.ofList (stampRow ' ' ['+', '0', '0', ':', '0', '0'] t)

def clockText (t : Instant) : String :=
  String.ofList t.clockRow

def dateClockText (t : Instant) : String :=
  String.ofList (t.date.row ++ [' '] ++ t.clockRow)

end Instant

end Time
end TubMonitor
