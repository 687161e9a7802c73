import TubMonitor.Time.Stamp
import TubMonitor.Text.Blank
import TubMonitor.Decimal.Literal

/-!
# Reading instants

A stamp is a date, a separator, a time of day and a zone.  Blanks may stand before
every number and sign of the date and the time, the fraction may have any number of
digits of which nine count, and a second numbered sixty is a leap second.  Each
reader takes its part off the front and returns the rest.
-/

namespace TubMonitor
namespace Time

/-!
## Parts
-/

/-- A number of at least one and at most `most` digits, after blanks. -/
def number? (most : Nat) (row : List Char) : Option (Nat × List Char) :=
  let row := Text.trimStart row
  let digits := (row.take most).takeWhile Char.isDigit
  if digits.isEmpty then
    none
  else
    some (Decimal.natOfDigits digits, row.drop digits.length)

def mark? (c : Char) (row : List Char) : Option (List Char) :=
  match Text.trimStart row with
  | first :: rest => if first = c then some rest else none
  | [] => none

/-- A year: four digits at most, or any number of them after a sign. -/
def year? (row : List Char) : Option (Int × List Char) :=
  match Text.trimStart row with
  | '-' :: rest =>
      let digits := rest.takeWhile Char.isDigit
      if digits.isEmpty then
        none
      else
        some (-(Decimal.natOfDigits digits : Int), rest.drop digits.length)
  | '+' :: rest =>
      let digits := rest.takeWhile Char.isDigit
      if digits.isEmpty then
        none
      else
        some ((Decimal.natOfDigits digits : Int), rest.drop digits.length)
  | row => (number? 4 row).map fun (n, rest) => ((n : Int), rest)

def date? (row : List Char) : Option (Date × List Char) := do
  let (year, row) ← year? row
  let row ← mark? '-' row
  let (month, row) ← number? 2 row
  let row ← mark? '-' row
  let (day, row) ← number? 2 row
  let date : Date := { year, month, day }
  if date.isValid then some (date, row) else none

/-- The nanoseconds after a point; no point, no nanoseconds. -/
def fraction? : List Char → Option (Nat × List Char)
  | '.' :: rest =>
      let digits := rest.takeWhile Char.isDigit
      if digits.isEmpty then
        none
      else
        let counted := digits.take 9
        let nanoseconds := Decimal.natOfDigits counted * Nat.pow 10 (9 - counted.length)
        some (nanoseconds, rest.drop digits.length)
  | row => some (0, row)

def clock? (row : List Char) : Option (Nat × Nat × List Char) := do
  let (hour, row) ← number? 2 row
  let row ← mark? ':' row
  let (minute, row) ← number? 2 row
  let row ← mark? ':' row
  let (second, row) ← number? 2 row
  let (nano, row) ← fraction? row
  if hour < 24 ∧ minute < 60 ∧ second < 60 then
    some (3600 * hour + 60 * minute + second, nano, row)
  else if hour < 24 ∧ minute < 60 ∧ second = 60 then
    some (3600 * hour + 60 * minute + 59, nano + Instant.nanosPerSecond, row)
  else
    none

/-!
## Zones

The letters UTC or Z, or a sign, two digits of hours and two digits of minutes,
between which colons and blanks may stand.
-/

def twoDigits? : List Char → Option (Nat × List Char)
  | a :: b :: rest =>
      if a.isDigit && b.isDigit then some (Decimal.natOfDigits [a, b], rest) else none
  | _ => none

def offset? (row : List Char) : Option (Nat × List Char) := do
  let (hours, row) ← twoDigits? row
  let row := row.dropWhile fun c => c = ':' || Text.isBlank c
  let (minutes, row) ← twoDigits? row
  if hours < 24 ∧ minutes < 60 then
    some (3600 * hours + 60 * minutes, row)
  else
    none

def zone? (row : List Char) : Option (Int × List Char) :=
  if (row.take 3).map Char.toUpper = ['U', 'T', 'C'] then
    some (0, row.drop 3)
  else
    match row with
    | 'Z' :: rest => some (0, rest)
    | 'z' :: rest => some (0, rest)
    | '+' :: rest => (offset? rest).map fun (seconds, rest) => ((seconds : Int), rest)
    | '-' :: rest => (offset? rest).map fun (seconds, rest) => (-(seconds : Int), rest)
    | '−' :: rest => (offset? rest).map fun (seconds, rest) => (-(seconds : Int), rest)
    | _ => none

/-!
## Whole stamps
-/

def separator? : List Char → Option (List Char)
  | c :: rest => if c = 'T' ∨ c = 't' ∨ c = ' ' then some rest else none
  | [] => none

def Instant.readRow? (row : List Char) : Option Instant := do
  let (date, row) ← date? row
  let row ← separator? row
  let (second, nano, row) ← clock? row
  let (ahead, row) ← zone? (Text.trimStart row)
  let instant : Instant := { second := 86400 * date.toDays + second - ahead, nano }
  if Text.isBlankLine row && instant.inCalendar then some instant else none

def Instant.read? (text : String) : Option Instant :=
  Instant.readRow? text.toList

end Time
end TubMonitor
