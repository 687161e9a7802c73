import TubMonitor.Notice.Dispatcher

/-!
# Whose rows are whose

Each loop has one table of the store to itself.  What a request is answered depends on
the rows of its own table, and nothing but these may change.
-/

namespace TubMonitor
namespace Store

def Request.source : Request -> Notice.Source
  | .saveSample _ _ => .temperature
  | .latestEntry | .startEntry _ _ | .stopEntry _ | .setStatus _ _ => .ozone
  | .latestRecord | .createRecord _ | .clearRecord _ => .leak

/-!
## One table

The store as it would be if the rows of one loop were all that it held.
-/

def Memory.only (m : Memory) : Notice.Source -> Memory
  | .ozone => { Memory.empty with entries := m.entries }
  | .leak => { Memory.empty with records := m.records }
  | .temperature => { Memory.empty with samples := m.samples }

def Database.only (d : Database) : Notice.Source -> Database
  | .ozone => { Database.empty with entries := d.entries }
  | .leak => { Database.empty with records := d.records }
  | .temperature => { Database.empty with samples := d.samples }

def only (s : Store) (source : Notice.Source) : Store :=
  match s with
  | memory m => memory (m.only source)
  | database d => database (d.only source)

/-!
## Requests in memory
-/

namespace Memory

theorem amendEntry_only (m : Memory) (id : Int) (change : Ozone.Entry -> Ozone.Entry) :
    (m.amendEntry id change).1 = ((m.only .ozone).amendEntry id change).1 ∧
      (m.amendEntry id change).2.only .ozone =
        ((m.only .ozone).amendEntry id change).2.only .ozone := by
  simp only [amendEntry, only]
  split <;> exact ⟨rfl, rfl⟩

theorem clearRecord_only (m : Memory) (now : Time.Instant) (id : Int) :
    (m.clearRecord now id).1 = ((m.only .leak).clearRecord now id).1 ∧
      (m.clearRecord now id).2.only .leak =
        ((m.only .leak).clearRecord now id).2.only .leak := by
  simp only [clearRecord, only]
  split <;> exact ⟨rfl, rfl⟩

/-- The rows of a table decide what a request about it is answered and what it changes. -/
theorem answer_only (m : Memory) (now : Time.Instant) (request : Request) :
    (m.answer now request).1 = ((m.only request.source).answer now request).1 ∧
      (m.answer now request).2.only request.source =
        ((m.only request.source).answer now request).2.only request.source := by
  cases request with
  | saveSample room water => exact ⟨rfl, rfl⟩
  | latestEntry => exact ⟨rfl, rfl⟩
  | startEntry start minutes => exact ⟨rfl, rfl⟩
  | stopEntry id =>
      have hAmend := amendEntry_only m id fun entry =>
        { entry with stop := some now, running := false }
      exact ⟨congrArg Answer.entry hAmend.1, hAmend.2⟩
  | setStatus id status =>
      have hAmend := amendEntry_only m id fun entry => { entry with status }
      exact ⟨congrArg Answer.entry hAmend.1, hAmend.2⟩
  | latestRecord => exact ⟨rfl, rfl⟩
  | createRecord detected => exact ⟨rfl, rfl⟩
  | clearRecord id =>
      have hClear := clearRecord_only m now id
      exact ⟨congrArg Answer.record hClear.1, hClear.2⟩

theorem answer_apart (m : Memory) (now : Time.Instant) {request : Request}
    {source : Notice.Source} (h : request.source ≠ source) :
    (m.answer now request).2.only source = m.only source := by
  cases request with
  | stopEntry id | setStatus id status =>
      simp only [answer, stopEntry, setStatus, amendEntry]
      split <;> cases source <;> first | rfl | exact absurd rfl h
  | clearRecord id =>
      simp only [answer, clearRecord]
      split <;> cases source <;> first | rfl | exact absurd rfl h
  | _ => cases source <;> first | rfl | exact absurd rfl h

end Memory

/-!
## Requests in a database
-/

namespace Database

theorem answer_only (d : Database) (now : Time.Instant) (request : Request) :
    (d.answer now request).1 = ((d.only request.source).answer now request).1 ∧
      (d.answer now request).2.only request.source =
        ((d.only request.source).answer now request).2.only request.source := by
  cases request <;> exact ⟨rfl, rfl⟩

theorem answer_apart (d : Database) (now : Time.Instant) {request : Request}
    {source : Notice.Source} (h : request.source ≠ source) :
    (d.answer now request).2.only source = d.only source := by
  cases request <;> cases source <;> first | rfl | exact absurd rfl h

end Database

/-!
## Stores
-/

theorem answer_only (s : Store) (now : Time.Instant) (request : Request) :
    (s.answer now request).1 = ((s.only request.source).answer now request).1 ∧
      (s.answer now request).2.only request.source =
        ((s.only request.source).answer now request).2.only request.source := by
  cases s with
  | memory m =>
      have hOnly := m.answer_only now request
      exact ⟨hOnly.1, congrArg Store.memory hOnly.2⟩
  | database d =>
      have hOnly := d.answer_only now request
      exact ⟨hOnly.1, congrArg Store.database hOnly.2⟩

theorem answer_apart (s : Store) (now : Time.Instant) {request : Request}
    {source : Notice.Source} (h : request.source ≠ source) :
    (s.answer now request).2.only source = s.only source := by
  cases s with
  | memory m => exact congrArg Store.memory (m.answer_apart now h)
  | database d => exact congrArg Store.database (d.answer_apart now h)

/-- Two stores with the same rows in a table answer alike and keep the same rows in it. -/
theorem answer_alike {s t : Store} (now : Time.Instant) {request : Request}
    {source : Notice.Source} (hOwn : request.source = source)
    (hRows : s.only source = t.only source) :
    (s.answer now request).1 = (t.answer now request).1 ∧
      (s.answer now request).2.only source = (t.answer now request).2.only source := by
  subst hOwn
  have hFirst := s.answer_only now request
  have hSecond := t.answer_only now request
  rw [← hRows] at hSecond
  exact ⟨hFirst.1.trans hSecond.1.symm, hFirst.2.trans hSecond.2.symm⟩

end Store
end TubMonitor
