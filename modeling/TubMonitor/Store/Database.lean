import TubMonitor.FileTree.Access
import TubMonitor.Store.Memory
import TubMonitor.Store.Request
import TubMonitor.Store.Table

/-!
# The store in a database

The three tables as rows of cells.  What is read back has gone through the cells;
what is inserted is answered as it was given.
-/

namespace TubMonitor
namespace Store

structure Database where
  samples : Table
  entries : Table
  records : Table

namespace Database

def empty : Database :=
  ⟨.empty, .empty, .empty⟩

/-!
## Rows
-/

def sampleCells (room water : Option Float) (taken : Time.Instant) : List Cell :=
  [Cell.ofOption Cell.ofFloat room, Cell.ofOption Cell.ofFloat water, Cell.ofInstant taken]

def entryCells (e : Ozone.Entry) : List Cell :=
  [ Cell.ofInstant e.start, Cell.ofOption Cell.ofInstant e.stop, .integer e.minutes
  , Cell.ofBool e.running, .text e.status ]

def entry? (id : Int) : List Cell → Option Ozone.Entry
  | [start, stop, minutes, running, status] => do
      let start ← start.instant?
      let stop ← Cell.optional? Cell.instant? stop
      let minutes ← minutes.natural?
      let running ← running.bool?
      let status ← status.string?
      some { id, start, stop, minutes, running, status }
  | _ => none

def recordCells (r : Leak.Record) : List Cell :=
  [Cell.ofInstant r.detected, Cell.ofOption Cell.ofInstant r.cleared]

def record? (id : Int) : List Cell → Option Leak.Record
  | [detected, cleared] => do
      let detected ← detected.instant?
      let cleared ← Cell.optional? Cell.instant? cleared
      some { id, detected, cleared }
  | _ => none

def readRow (read : Int → List Cell → Option α) (id : Int) (cells : List Cell) :
    Except Fault α :=
  match read id cells with
  | some row => .ok row
  | none => .error (.storage "row cannot be read")

def latest (read : Int → List Cell → Option α) (t : Table) : Except Fault (Option α) :=
  match t.latest? with
  | none => .ok none
  | some (id, cells) => (readRow read id cells).map some

def found (read : Int → List Cell → Option α) (t : Table) (id : Int) (missing : Fault) :
    Except Fault α :=
  match t.find? id with
  | none => .error missing
  | some cells => readRow read id cells

/-!
## Requests
-/

def saveSample (d : Database) (now : Time.Instant) (room water : Option Float) :
    Temperature.Sample × Database :=
  let (id, samples) := d.samples.insert (sampleCells room water now)
  ({ id, room, water, taken := now }, { d with samples })

def startEntry (d : Database) (start : Time.Instant) (minutes : Nat) :
    Ozone.Entry × Database :=
  let entry (id : Int) : Ozone.Entry :=
    { id, start, stop := none, minutes, running := true, status := Ozone.runningStatus }
  let (id, entries) := d.entries.insert (entryCells (entry 0))
  (entry id, { d with entries })

def closeCells (stop : Time.Instant) : List Cell → List Cell
  | [start, _, minutes, _, status] =>
      [start, Cell.ofInstant stop, minutes, Cell.ofBool false, status]
  | cells => cells

def labelCells (status : String) : List Cell → List Cell
  | [start, stop, minutes, running, _] => [start, stop, minutes, running, .text status]
  | cells => cells

def updateEntry (d : Database) (id : Int) (change : List Cell → List Cell) :
    Except Fault Ozone.Entry × Database :=
  let entries := d.entries.update id change
  (found entry? entries id (missingEntry id), { d with entries })

def createRecord (d : Database) (detected : Time.Instant) : Leak.Record × Database :=
  let record (id : Int) : Leak.Record := { id, detected, cleared := none }
  let (id, records) := d.records.insert (recordCells (record 0))
  (record id, { d with records })

def clearCells (cleared : Time.Instant) : List Cell → List Cell
  | [detected, _] => [detected, Cell.ofInstant cleared]
  | cells => cells

def clearRecord (d : Database) (now : Time.Instant) (id : Int) :
    Except Fault Leak.Record × Database :=
  let records := d.records.update id (clearCells now)
  (found record? records id (missingRecord id), { d with records })

def answer (d : Database) (now : Time.Instant) : Request → Answer × Database
  | .saveSample room water =>
      let (sample, next) := d.saveSample now room water
      (.sample (.ok sample), next)
  | .latestEntry => (.latestEntry (latest entry? d.entries), d)
  | .startEntry start minutes =>
      let (entry, next) := d.startEntry start minutes
      (.entry (.ok entry), next)
  | .stopEntry id =>
      let (outcome, next) := d.updateEntry id (closeCells now)
      (.entry outcome, next)
  | .setStatus id status =>
      let (outcome, next) := d.updateEntry id (labelCells status)
      (.entry outcome, next)
  | .latestRecord => (.latestRecord (latest record? d.records), d)
  | .createRecord detected =>
      let (record, next) := d.createRecord detected
      (.record (.ok record), next)
  | .clearRecord id =>
      let (outcome, next) := d.clearRecord now id
      (.record outcome, next)

/-!
## Opening

The directories above the file are made first.  A file that is not empty has to begin
with the mark of a database.
-/

def fileMark : List UInt8 :=
  "SQLite format 3\x00".toUTF8.data.toList

def isDatabaseFile (bytes : ByteArray) : Bool :=
  bytes.isEmpty || fileMark.isPrefixOf bytes.data.toList

/-- A path cannot be handed over with a NUL in it. -/
def nulPlace? (path : OsText) : Option Nat :=
  path.bytes.findIdx? (· = 0)

def unopened (path : OsText) : Fault :=
  match nulPlace? path with
  | some place => .storage ("nul byte found in provided data at position: " ++ toString place)
  | none => .storage ("unable to open database file: " ++ path.shown)

def openFile (t : FileTree) (path : OsText) : FileTree × Except Fault Unit :=
  match t.ensureDirectories (FileTree.parentNames path) with
  | .error (fault, left) => (left, .error (.io fault))
  | .ok housed =>
      match housed.resolve path with
      | .error _ => (housed, .error (unopened path))
      | .ok place =>
          match housed.node? place with
          | some (.file bytes) =>
              if isDatabaseFile bytes then
                (housed, .ok ())
              else
                (housed, .error (.storage "file is not a database"))
          | some _ => (housed, .error (unopened path))
          | none => (housed.put place (.file ⟨fileMark.toArray⟩), .ok ())

end Database
end Store

/-!
## Either store
-/

inductive Store where
  | memory (m : Store.Memory)
  | database (d : Store.Database)

def Store.answer (s : Store) (now : Time.Instant) (request : Store.Request) :
    Store.Answer × Store :=
  match s with
  | memory m =>
      let (answer, next) := m.answer now request
      (answer, memory next)
  | database d =>
      let (answer, next) := d.answer now request
      (answer, database next)

end TubMonitor
