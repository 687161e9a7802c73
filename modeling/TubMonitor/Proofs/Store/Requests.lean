import Mathlib.Data.List.Induction
import TubMonitor.Proofs.Store.Rows

/-!
# What requests do to the tables

The store in memory and the store in a database answer alike: as their table says, and
with the same change of its rows.
-/

namespace TubMonitor

/-- The instant is told from the stamp that is kept of it. -/
def Time.Instant.Legible (t : Time.Instant) : Prop :=
  read? t.cellStamp = some t

theorem Time.legible_instantOf {now : Nat} (h : (instantOf now).inCalendar = true) :
    (instantOf now).Legible :=
  Instant.read?_cellStamp (instantOf_isProper now) h

namespace Store

namespace Row

variable {α : Type} [Form α]

def changed (change : α -> α) (rewrite : List Cell -> List Cell) : Row α -> Row α
  | .kept row => .kept (change row)
  | .cells id held => .cells id (rewrite held)

theorem id_changed {change : α -> α} {rewrite : List Cell -> List Cell}
    (h : forall a, Form.number (change a) = Form.number a) (row : Row α) :
    (row.changed change rewrite).id = row.id := by
  cases row with
  | kept row => exact h row
  | cells id held => rfl

end Row

/-!
## Tables in memory
-/

namespace Memory

variable {α : Type} {isMeant : α -> Bool} {change : α -> α}

theorem amend_none {rows : List α} (h : rows.find? isMeant = none) :
    amend isMeant change rows = none := by
  induction rows with
  | nil => rfl
  | cons row rest ih =>
      rw [List.find?_eq_none] at h
      have hRest := ih (List.find?_eq_none.mpr fun other hMem => h other (List.mem_cons_of_mem _ hMem))
      rw [amend, if_neg (h row (List.mem_cons_self ..)), hRest]
      rfl

theorem amend_some {before after : List α} {row : α} (hRow : isMeant row = true)
    (hBefore : forall other, other ∈ before -> isMeant other = false) :
    amend isMeant change (before ++ row :: after) =
      some (change row, before ++ change row :: after) := by
  induction before with
  | nil => simp [amend, hRow]
  | cons first rest ih =>
      have hFirst := hBefore first (List.mem_cons_self ..)
      have hRest := ih fun other hMem => hBefore other (List.mem_cons_of_mem _ hMem)
      simp [amend, hFirst, hRest]

end Memory

section Tables

variable {α : Type} [Form α]

theorem find?_ofMemory (rows : List α) (id : Int) :
    (Sheet.ofMemory rows).rows.find? (fun row => row.id == id) =
      (rows.find? fun row => Form.number row == id).map .kept := by
  rw [Sheet.ofMemory, List.find?_map]
  rfl

theorem amend_ofMemory {rows : List α} (id : Int) (missing : Fault) (change : α -> α)
    (rewrite : List Cell -> List Cell) (hNumbered : (Sheet.ofMemory rows).Numbered)
    (hNumber : forall a, Form.number (change a) = Form.number a) :
    let next := (Sheet.ofMemory rows).amend id (Row.changed change rewrite)
    match Memory.amend (fun row => Form.number row == id) change rows with
    | some (found, after) => next.found id missing = .ok found ∧ Sheet.ofMemory after = next
    | none => next.found id missing = .error missing ∧ Sheet.ofMemory rows = next := by
  intro next
  cases hFind : rows.find? (fun row => Form.number row == id) with
  | none =>
      have hOthers : forall row, row ∈ (Sheet.ofMemory rows).rows -> row.id ≠ id := by
        intro row hMem
        rcases List.mem_map.mp hMem with ⟨a, hA, rfl⟩
        simpa [Row.id] using List.find?_eq_none.mp hFind a hA
      have hSame : next = Sheet.ofMemory rows := by
        show Sheet.mk _ _ = _
        rw [Sheet.amend_others _ hOthers]
      rw [Memory.amend_none hFind]
      dsimp only
      rw [hSame, Sheet.found, find?_ofMemory, hFind]
      exact ⟨rfl, rfl⟩
  | some row =>
      rcases List.find?_eq_some_iff_append.mp hFind with ⟨hMeant, before, after, hRows, hBefore⟩
      have hId : Form.number row = id := by simpa using hMeant
      subst hId
      have hGrowing := hNumbered.growing
      simp only [Sheet.ids, Sheet.ofMemory, hRows, List.map_append, List.map_cons, List.map_map,
        List.pairwise_append, List.pairwise_cons, List.mem_map, Function.comp_apply] at hGrowing
      have hFirst : forall other, other ∈ before -> Form.number other ≠ Form.number row := by
        intro other hMem
        simpa using hBefore other hMem
      have hLater : forall other, other ∈ after -> Form.number other ≠ Form.number row := by
        intro other hMem
        have hLess : Form.number row < Form.number other :=
          hGrowing.2.1.1 (Form.number other) ⟨other, hMem, rfl⟩
        omega
      have hOthers {some : List α}
          (hNe : forall other, other ∈ some -> Form.number other ≠ Form.number row) :
          (some.map Row.kept).map (fun other : Row α =>
            if other.id = Form.number row then other.changed change rewrite else other) =
            some.map Row.kept := by
        apply Sheet.amend_others
        intro other hMem
        rcases List.mem_map.mp hMem with ⟨a, hA, rfl⟩
        exact hNe a hA
      have hNext : next.rows =
          before.map .kept ++ Row.kept (change row) :: after.map .kept := by
        show List.map _ ((rows.map Row.kept)) = _
        rw [hRows, List.map_append, List.map_cons, List.map_append, List.map_cons, hOthers hFirst,
          hOthers hLater]
        simp [Row.id, Row.changed]
      have hAmend : Memory.amend (fun other => Form.number other == Form.number row) change rows =
          some (change row, before ++ change row :: after) := by
        rw [hRows]
        exact Memory.amend_some (by simp) fun other hMem => by simpa using hFirst other hMem
      rw [hAmend]
      dsimp only
      constructor
      · have hNone : (before.map Row.kept).find?
            (fun other : Row α => other.id == Form.number row) = none := by
          rw [List.find?_eq_none]
          intro other hMem
          rcases List.mem_map.mp hMem with ⟨a, hA, rfl⟩
          simpa [Row.id] using hFirst a hA
        rw [Sheet.found, hNext, List.find?_append, hNone]
        simp [Row.id, hNumber, Row.readOut, Row.value?]
      · rw [Sheet.ofMemory, show next = Sheet.mk next.rows rows.length from rfl, hNext, hRows]
        simp

/-!
## Tables of cells
-/

theorem push_ofTable {β : Type} (t : Table) (held : List Cell) :
    (Sheet.ofTable (t.insert held).2 : Sheet β) =
      (Sheet.ofTable t).push (.cells (t.lastId + 1) held) := by
  simp [Sheet.ofTable, Table.insert, Sheet.push]

theorem amend_ofTable (t : Table) (id : Int) (change : α -> α)
    (rewrite : List Cell -> List Cell) :
    (Sheet.ofTable (t.update id rewrite) : Sheet α) =
      (Sheet.ofTable t).amend id (Row.changed change rewrite) := by
  simp only [Sheet.ofTable, Table.update, Sheet.amend, List.map_map, Sheet.mk.injEq, and_true]
  apply List.map_congr_left
  intro row _
  by_cases hId : row.1 = id
  · simp [Row.id, Row.changed, hId]
  · simp [Row.id, hId]

theorem readRow_cells (α : Type) [Form α] (id : Int) (held : List Cell) :
    Database.readRow (Form.read? (α := α)) id held = (Row.cells id held : Row α).readOut := by
  simp only [Database.readRow, Row.readOut, Row.value?]
  split
  · next hRead => simp [hRead]
  · next hRead => simp [hRead]

theorem found_ofTable (t : Table) (id : Int) (missing : Fault) :
    Database.found (Form.read? (α := α)) t id missing = (Sheet.ofTable t).found id missing := by
  unfold Database.found Sheet.found Table.find? Sheet.ofTable
  induction t.rows with
  | nil => rfl
  | cons row rest ih =>
      rw [List.lookup_cons, List.map_cons, List.find?_cons]
      have hSide : ((Row.cells row.1 row.2 : Row α).id == id) = (id == row.1) := by
        simp [Row.id, eq_comm]
      rw [hSide]
      cases hMeant : id == row.1 with
      | true =>
          rw [beq_iff_eq.mp hMeant]
          exact readRow_cells α row.1 row.2
      | false => exact ih

theorem latest?_eq_getLast? {rows : List (Int × List Cell)}
    (h : (rows.map Prod.fst).Pairwise (· < ·)) :
    rows.foldl Table.later none = rows.getLast? := by
  induction rows using List.reverseRecOn with
  | nil => rfl
  | append_singleton earlier last ih =>
      rw [List.map_append, List.pairwise_append] at h
      rw [List.foldl_append, ih h.1, List.getLast?_append]
      cases hEarlier : earlier.getLast? with
      | none => rfl
      | some row =>
          have hLess : row.1 < last.1 :=
            h.2.2 row.1 (List.mem_map_of_mem (List.mem_of_getLast? hEarlier)) last.1 (by simp)
          simp [Table.later, hLess]

theorem latest_ofTable {t : Table} (h : (Sheet.ofTable t : Sheet α).Numbered) :
    Database.latest (Form.read? (α := α)) t = (Sheet.ofTable t).latest := by
  have hGrowing : (t.rows.map Prod.fst).Pairwise (· < ·) := by
    have hIds := h.growing
    simpa [Sheet.ids, Sheet.ofTable, List.map_map, Function.comp_def, Row.id] using hIds
  unfold Database.latest Sheet.latest Table.latest? Sheet.ofTable
  rw [latest?_eq_getLast? hGrowing, List.getLast?_map]
  cases t.rows.getLast? with
  | none => rfl
  | some row => exact congrArg (Except.map some) (readRow_cells α row.1 row.2)

end Tables

/-!
## Leak records
-/

instance : Form Leak.Record where
  number := Leak.Record.id
  read? := Database.record?
  number_read := by
    intro id held record h
    unfold Database.record? at h
    split at h
    · simp only [Option.bind_eq_bind, Option.bind_eq_some_iff, Option.some.injEq] at h
      rcases h with ⟨_, _, _, _, rfl⟩
      rfl
    · cases h

def recordSheet : Store -> Sheet Leak.Record
  | .memory m => .ofMemory m.records
  | .database d => .ofTable d.records

theorem recordSheet_only {s t : Store} (h : s.only .leak = t.only .leak) :
    s.recordSheet = t.recordSheet := by
  have hOwn (s : Store) : (s.only .leak).recordSheet = s.recordSheet := by
    cases s <;> rfl
  rw [← hOwn s, h, hOwn t]

theorem instant?_ofInstant {t : Time.Instant} (h : t.Legible) :
    (Cell.ofInstant t).instant? = some t := h

theorem optional_ofInstant {t : Time.Instant} (h : t.Legible) :
    Cell.optional? Cell.instant? (Cell.ofInstant t) = some (some t) := by
  show (Cell.ofInstant t).instant?.map some = _
  rw [instant?_ofInstant h]
  rfl

def clear (now : Time.Instant) (record : Leak.Record) : Leak.Record :=
  { record with cleared := some now }

def cleared (now : Time.Instant) : Row Leak.Record -> Row Leak.Record :=
  Row.changed (clear now) (Database.clearCells now)

theorem number_clear (now : Time.Instant) (record : Leak.Record) :
    Form.number (clear now record) = Form.number record := rfl

theorem id_cleared (now : Time.Instant) (row : Row Leak.Record) :
    (cleared now row).id = row.id :=
  Row.id_changed (number_clear now) row

theorem value?_cleared {now : Time.Instant} {row : Row Leak.Record} {record : Leak.Record}
    (hNow : now.Legible) (h : row.value? = some record) :
    (cleared now row).value? = some (clear now record) := by
  cases row with
  | kept row =>
      cases h
      rfl
  | cells id held =>
      change Database.record? id held = some record at h
      show Database.record? id (Database.clearCells now held) = _
      unfold Database.record? at h
      split at h
      · simp only [Option.bind_eq_bind, Option.bind_eq_some_iff, Option.some.injEq] at h
        rcases h with ⟨detected, hDetected, _, _, rfl⟩
        simp [Database.clearCells, Database.record?, hDetected, optional_ofInstant hNow, clear]
      · cases h

theorem answer_latestRecord {s : Store} (now : Time.Instant) (h : s.recordSheet.Numbered) :
    s.answer now .latestRecord = (.latestRecord s.recordSheet.latest, s) := by
  cases s with
  | memory m =>
      have hLatest : Sheet.latest (Sheet.ofMemory m.records) = .ok m.records.getLast? := by
        rw [Sheet.latest, Sheet.ofMemory, List.getLast?_map]
        cases m.records.getLast? <;> rfl
      simp [answer, Memory.answer, recordSheet, hLatest]
  | database d =>
      have hLatest : Database.latest Database.record? d.records =
          (Sheet.ofTable d.records).latest := latest_ofTable h
      simp [answer, Database.answer, recordSheet, hLatest]

theorem answer_createRecord (s : Store) (now detected : Time.Instant) :
    exists row : Row Leak.Record, row.id = s.recordSheet.lastId + 1 ∧
      (detected.Legible ->
        row.value? = some ⟨s.recordSheet.lastId + 1, detected, none⟩) ∧
      (s.answer now (.createRecord detected)).1 =
        .record (.ok ⟨s.recordSheet.lastId + 1, detected, none⟩) ∧
      (s.answer now (.createRecord detected)).2.recordSheet = s.recordSheet.push row := by
  cases s with
  | memory m =>
      refine ⟨.kept ⟨m.records.length + 1, detected, none⟩, rfl, fun _ => rfl, rfl, ?_⟩
      simp [answer, Memory.answer, Memory.createRecord, Memory.counted, recordSheet,
        Sheet.ofMemory, Sheet.push, Memory.nextId]
  | database d =>
      have hRead (hLegible : detected.Legible) :
          Database.record? (d.records.lastId + 1) [Cell.ofInstant detected, .null] =
            some ⟨d.records.lastId + 1, detected, none⟩ := by
        simp [Database.record?, instant?_ofInstant hLegible, Cell.optional?]
      exact ⟨.cells (d.records.lastId + 1) [Cell.ofInstant detected, .null], rfl, hRead, rfl,
        push_ofTable ..⟩

theorem clearRecord_eq (m : Memory) (now : Time.Instant) (id : Int) :
    m.clearRecord now id =
      match Memory.amend (fun record => Form.number record == id) (clear now) m.records with
      | some (record, records) => (.ok record, { m.counted with records })
      | none => (.error (missingRecord id), m.counted) := rfl

theorem answer_clearRecord {s : Store} (now : Time.Instant) (id : Int)
    (h : s.recordSheet.Numbered) :
    (s.answer now (.clearRecord id)).1 =
        .record ((s.recordSheet.amend id (cleared now)).found id (missingRecord id)) ∧
      (s.answer now (.clearRecord id)).2.recordSheet =
        s.recordSheet.amend id (cleared now) := by
  cases s with
  | memory m =>
      have hAmend := amend_ofMemory id (missingRecord id) (clear now) (Database.clearCells now) h
        (number_clear now)
      simp only [answer, Memory.answer, clearRecord_eq, recordSheet]
      dsimp only at hAmend
      split at hAmend
      · next record records hFound =>
          rw [hFound]
          exact ⟨congrArg Answer.record hAmend.1.symm, hAmend.2⟩
      · next hNone =>
          rw [hNone]
          exact ⟨congrArg Answer.record hAmend.1.symm, hAmend.2⟩
  | database d =>
      have hSheet : Sheet.ofTable (d.records.update id (Database.clearCells now)) =
          (Sheet.ofTable d.records).amend id (cleared now) := amend_ofTable ..
      have hFound := found_ofTable (α := Leak.Record)
        (d.records.update id (Database.clearCells now)) id (missingRecord id)
      constructor
      · show Answer.record (Database.found Database.record? _ id _) = _
        rw [recordSheet, ← hSheet, ← hFound]
        rfl
      · exact hSheet

/-!
## Ozone entries
-/

instance : Form Ozone.Entry where
  number := Ozone.Entry.id
  read? := Database.entry?
  number_read := by
    intro id held entry h
    unfold Database.entry? at h
    split at h
    · simp only [Option.bind_eq_bind, Option.bind_eq_some_iff, Option.some.injEq] at h
      rcases h with ⟨_, _, _, _, _, _, _, _, _, _, rfl⟩
      rfl
    · cases h

def entrySheet : Store -> Sheet Ozone.Entry
  | .memory m => .ofMemory m.entries
  | .database d => .ofTable d.entries

theorem entrySheet_only {s t : Store} (h : s.only .ozone = t.only .ozone) :
    s.entrySheet = t.entrySheet := by
  have hOwn (s : Store) : (s.only .ozone).entrySheet = s.entrySheet := by
    cases s <;> rfl
  rw [← hOwn s, h, hOwn t]

def begun (id : Int) (start : Time.Instant) (minutes : Nat) : Ozone.Entry :=
  { id, start, stop := none, minutes, running := true, status := Ozone.runningStatus }

def close (now : Time.Instant) (entry : Ozone.Entry) : Ozone.Entry :=
  { entry with stop := some now, running := false }

def label (status : String) (entry : Ozone.Entry) : Ozone.Entry :=
  { entry with status }

def closed (now : Time.Instant) : Row Ozone.Entry -> Row Ozone.Entry :=
  Row.changed (close now) (Database.closeCells now)

def labelled (status : String) : Row Ozone.Entry -> Row Ozone.Entry :=
  Row.changed (label status) (Database.labelCells status)

theorem number_close (now : Time.Instant) (entry : Ozone.Entry) :
    Form.number (close now entry) = Form.number entry := rfl

theorem number_label (status : String) (entry : Ozone.Entry) :
    Form.number (label status entry) = Form.number entry := rfl

theorem id_closed (now : Time.Instant) (row : Row Ozone.Entry) : (closed now row).id = row.id :=
  Row.id_changed (number_close now) row

theorem id_labelled (status : String) (row : Row Ozone.Entry) :
    (labelled status row).id = row.id :=
  Row.id_changed (number_label status) row

theorem entry?_cases {id : Int} {held : List Cell} {entry : Ozone.Entry}
    (h : Database.entry? id held = some entry) :
    exists start stop minutes running status, held = [start, stop, minutes, running, status] ∧
      start.instant? = some entry.start ∧ Cell.optional? Cell.instant? stop = some entry.stop ∧
      minutes.natural? = some entry.minutes ∧ running.bool? = some entry.running ∧
      status.string? = some entry.status ∧ entry.id = id := by
  unfold Database.entry? at h
  split at h
  · simp only [Option.bind_eq_bind, Option.bind_eq_some_iff, Option.some.injEq] at h
    rcases h with ⟨_, hStart, _, hStop, _, hMinutes, _, hRunning, _, hStatus, rfl⟩
    exact ⟨_, _, _, _, _, rfl, hStart, hStop, hMinutes, hRunning, hStatus, rfl⟩
  · cases h

theorem value?_closed {now : Time.Instant} {row : Row Ozone.Entry} {entry : Ozone.Entry}
    (hNow : now.Legible) (h : row.value? = some entry) :
    (closed now row).value? = some (close now entry) := by
  cases row with
  | kept row =>
      cases h
      rfl
  | cells id held =>
      rcases entry?_cases h with
        ⟨start, stop, minutes, running, status, rfl, hStart, _, hMinutes, _, hStatus, rfl⟩
      show Database.entry? _ (Database.closeCells now [start, stop, minutes, running, status]) = _
      simp [Database.closeCells, Database.entry?, hStart, hMinutes, hStatus,
        optional_ofInstant hNow, Cell.ofBool, Cell.bool?, close]

theorem value?_labelled {status : String} {row : Row Ozone.Entry} {entry : Ozone.Entry}
    (h : row.value? = some entry) :
    (labelled status row).value? = some (label status entry) := by
  cases row with
  | kept row =>
      cases h
      rfl
  | cells id held =>
      rcases entry?_cases h with
        ⟨start, stop, minutes, running, text, rfl, hStart, hStop, hMinutes, hRunning, _, rfl⟩
      show Database.entry? _ (Database.labelCells status [start, stop, minutes, running, text]) = _
      simp [Database.labelCells, Database.entry?, hStart, hStop, hMinutes, hRunning,
        Cell.string?, label]

theorem answer_latestEntry {s : Store} (now : Time.Instant) (h : s.entrySheet.Numbered) :
    s.answer now .latestEntry = (.latestEntry s.entrySheet.latest, s) := by
  cases s with
  | memory m =>
      have hLatest : Sheet.latest (Sheet.ofMemory m.entries) = .ok m.entries.getLast? := by
        rw [Sheet.latest, Sheet.ofMemory, List.getLast?_map]
        cases m.entries.getLast? <;> rfl
      simp [answer, Memory.answer, entrySheet, hLatest]
  | database d =>
      have hLatest : Database.latest Database.entry? d.entries =
          (Sheet.ofTable d.entries).latest := latest_ofTable h
      simp [answer, Database.answer, entrySheet, hLatest]

theorem answer_startEntry (s : Store) (now start : Time.Instant) (minutes : Nat) :
    exists row : Row Ozone.Entry, row.id = s.entrySheet.lastId + 1 ∧
      (start.Legible -> row.value? = some (begun (s.entrySheet.lastId + 1) start minutes)) ∧
      (s.answer now (.startEntry start minutes)).1 =
        .entry (.ok (begun (s.entrySheet.lastId + 1) start minutes)) ∧
      (s.answer now (.startEntry start minutes)).2.entrySheet = s.entrySheet.push row := by
  cases s with
  | memory m =>
      refine ⟨.kept (begun (m.entries.length + 1) start minutes), rfl, fun _ => rfl, rfl, ?_⟩
      simp [answer, Memory.answer, Memory.startEntry, Memory.counted, entrySheet,
        Sheet.ofMemory, Sheet.push, Memory.nextId, begun]
  | database d =>
      have hRead (hLegible : start.Legible) :
          Database.entry? (d.entries.lastId + 1)
              (Database.entryCells (begun 0 start minutes)) =
            some (begun (d.entries.lastId + 1) start minutes) := by
        simp [Database.entryCells, Database.entry?, begun, instant?_ofInstant hLegible,
          Cell.ofOption, Cell.optional?, Cell.natural?, Cell.ofBool, Cell.bool?, Cell.string?]
      exact ⟨.cells (d.entries.lastId + 1) (Database.entryCells (begun 0 start minutes)), rfl,
        hRead, rfl, push_ofTable ..⟩

theorem amendEntry_eq (m : Memory) (id : Int) (change : Ozone.Entry -> Ozone.Entry) :
    m.amendEntry id change =
      match Memory.amend (fun entry => Form.number entry == id) change m.entries with
      | some (entry, entries) => (.ok entry, { m.counted with entries })
      | none => (.error (missingEntry id), m.counted) := rfl

theorem updateEntry_sheet {change : Ozone.Entry -> Ozone.Entry}
    (rewrite : List Cell -> List Cell) (id : Int)
    (hNumber : forall entry, Form.number (change entry) = Form.number entry) :
    (forall m : Memory, (Sheet.ofMemory m.entries).Numbered ->
      let next := (Sheet.ofMemory m.entries).amend id (Row.changed change rewrite)
      (m.amendEntry id change).1 = next.found id (missingEntry id) ∧
        Sheet.ofMemory (m.amendEntry id change).2.entries = next) ∧
    (forall d : Database,
      let next := (Sheet.ofTable d.entries).amend id (Row.changed change rewrite)
      (d.updateEntry id rewrite).1 = next.found id (missingEntry id) ∧
        Sheet.ofTable (d.updateEntry id rewrite).2.entries = next) := by
  constructor
  · intro m hNumbered next
    have hAmend := amend_ofMemory id (missingEntry id) change rewrite hNumbered hNumber
    dsimp only at hAmend
    rw [amendEntry_eq]
    split at hAmend
    · next entry entries hFound =>
        rw [hFound]
        exact ⟨hAmend.1.symm, hAmend.2⟩
    · next hNone =>
        rw [hNone]
        exact ⟨hAmend.1.symm, hAmend.2⟩
  · intro d next
    have hSheet : Sheet.ofTable (d.entries.update id rewrite) = next := amend_ofTable ..
    have hFound := found_ofTable (α := Ozone.Entry) (d.entries.update id rewrite) id
      (missingEntry id)
    exact ⟨by rw [← hSheet, ← hFound]; rfl, hSheet⟩

theorem answer_stopEntry {s : Store} (now : Time.Instant) (id : Int)
    (h : s.entrySheet.Numbered) :
    (s.answer now (.stopEntry id)).1 =
        .entry ((s.entrySheet.amend id (closed now)).found id (missingEntry id)) ∧
      (s.answer now (.stopEntry id)).2.entrySheet = s.entrySheet.amend id (closed now) := by
  have hBoth := updateEntry_sheet (Database.closeCells now) id (number_close now)
  cases s with
  | memory m => exact ⟨congrArg Answer.entry (hBoth.1 m h).1, (hBoth.1 m h).2⟩
  | database d => exact ⟨congrArg Answer.entry (hBoth.2 d).1, (hBoth.2 d).2⟩

theorem answer_setStatus {s : Store} (now : Time.Instant) (id : Int) (status : String)
    (h : s.entrySheet.Numbered) :
    (s.answer now (.setStatus id status)).1 =
        .entry ((s.entrySheet.amend id (labelled status)).found id (missingEntry id)) ∧
      (s.answer now (.setStatus id status)).2.entrySheet =
        s.entrySheet.amend id (labelled status) := by
  have hBoth := updateEntry_sheet (Database.labelCells status) id (number_label status)
  cases s with
  | memory m => exact ⟨congrArg Answer.entry (hBoth.1 m h).1, (hBoth.1 m h).2⟩
  | database d => exact ⟨congrArg Answer.entry (hBoth.2 d).1, (hBoth.2 d).2⟩

end Store
end TubMonitor
