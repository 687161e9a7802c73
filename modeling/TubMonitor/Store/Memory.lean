import TubMonitor.Store.Request

/-!
# The store in memory

Rows stand in the order of their ids.  Every request that may change a row is
counted, also where it finds no row.
-/

namespace TubMonitor
namespace Store

structure Memory where
  samples : List Temperature.Sample
  entries : List Ozone.Entry
  records : List Leak.Record
  writes : Nat

namespace Memory

def empty : Memory :=
  ⟨[], [], [], 0⟩

def nextId (rows : List α) : Int :=
  rows.length + 1

def counted (m : Memory) : Memory :=
  { m with writes := m.writes + 1 }

def amend (isMeant : α → Bool) (change : α → α) : List α → Option (α × List α)
  | [] => none
  | row :: rest =>
      if isMeant row then
        some (change row, change row :: rest)
      else
        (amend isMeant change rest).map fun (found, rows) => (found, row :: rows)

/-!
## Samples
-/

def saveSample (m : Memory) (now : Time.Instant) (room water : Option Float) :
    Temperature.Sample × Memory :=
  let sample : Temperature.Sample := { id := nextId m.samples, room, water, taken := now }
  (sample, { m.counted with samples := m.samples ++ [sample] })

/-!
## Ozone entries
-/

def startEntry (m : Memory) (start : Time.Instant) (minutes : Nat) : Ozone.Entry × Memory :=
  let entry : Ozone.Entry :=
    { id := nextId m.entries
      start
      stop := none
      minutes
      running := true
      status := Ozone.runningStatus }
  (entry, { m.counted with entries := m.entries ++ [entry] })

def amendEntry (m : Memory) (id : Int) (change : Ozone.Entry → Ozone.Entry) :
    Except Fault Ozone.Entry × Memory :=
  match amend (fun (e : Ozone.Entry) => e.id == id) change m.entries with
  | some (entry, entries) => (.ok entry, { m.counted with entries })
  | none => (.error (missingEntry id), m.counted)

def stopEntry (m : Memory) (now : Time.Instant) (id : Int) :
    Except Fault Ozone.Entry × Memory :=
  m.amendEntry id fun entry => { entry with stop := some now, running := false }

def setStatus (m : Memory) (id : Int) (status : String) :
    Except Fault Ozone.Entry × Memory :=
  m.amendEntry id fun entry => { entry with status }

/-- A row left by an earlier run takes the next id and is not counted. -/
def seedEntry (m : Memory) (entry : Ozone.Entry) : Ozone.Entry × Memory :=
  let entry := { entry with id := nextId m.entries }
  (entry, { m with entries := m.entries ++ [entry] })

/-!
## Leak records
-/

def createRecord (m : Memory) (detected : Time.Instant) : Leak.Record × Memory :=
  let record : Leak.Record := { id := nextId m.records, detected, cleared := none }
  (record, { m.counted with records := m.records ++ [record] })

def clearRecord (m : Memory) (now : Time.Instant) (id : Int) :
    Except Fault Leak.Record × Memory :=
  match
    amend (fun (r : Leak.Record) => r.id == id)
      (fun record => { record with cleared := some now }) m.records
  with
  | some (record, records) => (.ok record, { m.counted with records })
  | none => (.error (missingRecord id), m.counted)

def seedRecord (m : Memory) (record : Leak.Record) : Leak.Record × Memory :=
  let record := { record with id := nextId m.records }
  (record, { m with records := m.records ++ [record] })

/-!
## Requests
-/

def answer (m : Memory) (now : Time.Instant) : Request → Answer × Memory
  | .saveSample room water =>
      let (sample, next) := m.saveSample now room water
      (.sample (.ok sample), next)
  | .latestEntry => (.latestEntry (.ok m.entries.getLast?), m)
  | .startEntry start minutes =>
      let (entry, next) := m.startEntry start minutes
      (.entry (.ok entry), next)
  | .stopEntry id =>
      let (outcome, next) := m.stopEntry now id
      (.entry outcome, next)
  | .setStatus id status =>
      let (outcome, next) := m.setStatus id status
      (.entry outcome, next)
  | .latestRecord => (.latestRecord (.ok m.records.getLast?), m)
  | .createRecord detected =>
      let (record, next) := m.createRecord detected
      (.record (.ok record), next)
  | .clearRecord id =>
      let (outcome, next) := m.clearRecord now id
      (.record outcome, next)

end Memory
end Store
end TubMonitor
