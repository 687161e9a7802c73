import TubMonitor.Decimal.Layout
import TubMonitor.Fault
import TubMonitor.Records
import TubMonitor.Ozone.Basic
import TubMonitor.Temperature.Basic

/-!
# What is asked of a store

A store keeps three tables: temperature samples, ozone entries and leak records.  It
numbers the rows of each from one.
-/

namespace TubMonitor
namespace Store

inductive Request where
  | saveSample (room water : Option Float)
  | latestEntry
  | startEntry (start : Time.Instant) (minutes : Nat)
  | stopEntry (id : Int)
  | setStatus (id : Int) (status : String)
  | latestRecord
  | createRecord (detected : Time.Instant)
  | clearRecord (id : Int)
deriving DecidableEq, Repr

inductive Answer where
  | sample (outcome : Except Fault Temperature.Sample)
  | entry (outcome : Except Fault Ozone.Entry)
  | latestEntry (outcome : Except Fault (Option Ozone.Entry))
  | record (outcome : Except Fault Leak.Record)
  | latestRecord (outcome : Except Fault (Option Leak.Record))

def Request.failed (fault : Fault) : Request → Answer
  | saveSample _ _ => .sample (.error fault)
  | latestEntry => .latestEntry (.error fault)
  | startEntry _ _ => .entry (.error fault)
  | stopEntry _ => .entry (.error fault)
  | setStatus _ _ => .entry (.error fault)
  | latestRecord => .latestRecord (.error fault)
  | createRecord _ => .record (.error fault)
  | clearRecord _ => .record (.error fault)

def missingEntry (id : Int) : Fault :=
  .notFound ("ozone entry " ++ Decimal.integerText id)

def missingRecord (id : Int) : Fault :=
  .notFound ("leak record " ++ Decimal.integerText id)

end Store
end TubMonitor
