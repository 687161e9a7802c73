import TubMonitor.Decimal.Literal
import TubMonitor.Text.Classes

/-!
# Reports of a temperature probe

A probe reports two lines: the first ends with a checksum and whether it held, the
second with the temperature in thousandths of a degree Celsius.  A report is searched
for each of the two and the leftmost occurrence counts; what else it says does not.
-/

namespace TubMonitor
namespace Sensors
namespace Report

inductive Problem where
  | missingChecksum
  | failedChecksum
  | missingTemperature
  | badTemperature (why : Decimal.IntegerFault)
deriving DecidableEq, Repr

def Problem.message : Problem → String
  | missingChecksum => "missing crc line"
  | failedChecksum => "crc check failed"
  | missingTemperature => "missing t= field"
  | badTemperature why => "bad t= field: " ++ why.message

/-!
## Patterns
-/

/-- What a pattern finds at the first place where it matches. -/
def leftmost (pattern : List Char → Option α) : List Char → Option α
  | [] => pattern []
  | c :: rest =>
      match pattern (c :: rest) with
      | some found => some found
      | none => leftmost pattern rest

def isHexDigit (c : Char) : Bool :=
  c.isDigit || ('a' ≤ c && c ≤ 'f') || ('A' ≤ c && c ≤ 'F')

def checksumHere : List Char → Option Bool
  | 'c' :: 'r' :: 'c' :: '=' :: high :: low :: ' ' :: verdict =>
      if isHexDigit high && isHexDigit low then
        match verdict with
        | 'Y' :: 'E' :: 'S' :: _ => some true
        | 'N' :: 'O' :: _ => some false
        | _ => none
      else
        none
  | _ => none

def digitsHere (row : List Char) : Option (List Char) :=
  match row.takeWhile Text.isDecimalDigit with
  | [] => none
  | digits => some digits

def temperatureHere : List Char → Option (List Char)
  | 't' :: '=' :: '-' :: row => (digitsHere row).map ('-' :: ·)
  | 't' :: '=' :: row => digitsHere row
  | _ => none

/-!
## Reading a report
-/

/-- The number has to be written in ASCII digits and to fit 64 bits. -/
def thousandths (row : List Char) : Except Problem Int :=
  match leftmost checksumHere row with
  | none => .error .missingChecksum
  | some false => .error .failedChecksum
  | some true =>
      match leftmost temperatureHere row with
      | none => .error .missingTemperature
      | some number =>
          match Decimal.integer (Nat.pow 2 63 - 1) number with
          | .ok value => .ok value
          | .error why => .error (.badTemperature why)

def celsius (text : String) : Except Problem Float :=
  (thousandths text.toList).map fun m => Float.ofInt m / 1000.0

end Report
end Sensors
end TubMonitor
