import Mathlib.Data.List.Forall2
import Mathlib.Data.List.Induction
import Mathlib.Data.List.Nodup
import TubMonitor.Proofs.Store.Agreement

/-!
# The rows of the store in memory

Whatever is asked of the store in memory, and whatever an earlier run has left in it, the rows of
each table are numbered from one in the order in which they came.  A row that is there stays: its id
finds no other row, what it began with is never changed, and once it is closed it is never open
again.
-/

namespace TubMonitor
namespace Store

open Time (Instant)

/-!
## Tables
-/

def serials (count : Nat) : List Int :=
  (List.range' 1 count).map Int.ofNat

theorem serials_succ (count : Nat) :
    serials (count + 1) = serials count ++ [(count : Int) + 1] := by
  simp only [serials, List.range'_concat, List.map_append, List.map_cons, List.map_nil]
  congr 2
  simp
  omega

theorem mem_serials {count : Nat} {id : Int} : id ∈ serials count ↔ 1 ≤ id ∧ id ≤ count := by
  simp only [serials, List.mem_map, List.mem_range'_1]
  constructor
  · rintro ⟨n, hRange, rfl⟩
    simp
    omega
  · rintro ⟨hLow, hHigh⟩
    exact ⟨id.toNat, by omega, by simp; omega⟩

theorem serials_nodup (count : Nat) : (serials count).Nodup :=
  List.Nodup.map (fun _ _ h => Int.ofNat.inj h) List.nodup_range'

section Tables

variable {α : Type} {number : α -> Int} {rows : List α}

/-- The rows are numbered from one in their order. -/
def Serial (number : α -> Int) (rows : List α) : Prop :=
  rows.map number = serials rows.length

/-- The row with the greatest id, if there is a row. -/
def Greatest (number : α -> Int) (rows : List α) : Option α -> Prop
  | none => rows = []
  | some row => row ∈ rows ∧ forall other, other ∈ rows -> number other ≤ number row

theorem serial_push {row : α} (h : Serial number rows) (hRow : number row = rows.length + 1) :
    Serial number (rows ++ [row]) := by
  unfold Serial at h ⊢
  rw [List.map_append, h, List.length_append, List.length_singleton, serials_succ,
    List.map_singleton, hRow]

theorem serial_latest (h : Serial number rows) : Greatest number rows rows.getLast? := by
  rcases List.eq_nil_or_concat rows with rfl | ⟨before, row, rfl⟩
  · rfl
  · rw [List.concat_eq_append] at h ⊢
    rw [List.getLast?_concat]
    unfold Serial at h
    rw [List.map_append, List.length_append, List.length_singleton, serials_succ,
      List.map_singleton] at h
    have hLast := (List.append_inj' h rfl).2
    have hRow : number row = before.length + 1 := List.cons.inj hLast |>.1
    refine ⟨by simp, ?_⟩
    intro other hMem
    have hId : number other ∈ serials (before.length + 1) := by
      rw [serials_succ, ← h, ← List.map_singleton, ← List.map_append]
      exact List.mem_map_of_mem hMem
    have hRange := mem_serials.mp hId
    omega

def amended (number : α -> Int) (id : Int) (change : α -> α) (rows : List α) : List α :=
  rows.map fun row => if number row = id then change row else row

inductive Amends (number : α -> Int) (id : Int) (missing : Fault) (change : α -> α)
    (rows : List α) : Except Fault α -> List α -> Prop where
  | found {row : α} (hMem : row ∈ rows) (hId : number row = id) :
      Amends number id missing change rows (.ok (change row)) (amended number id change rows)
  | missing (hNone : forall row, row ∈ rows -> number row ≠ id) :
      Amends number id missing change rows (.error missing) rows

theorem serial_others {before after : List α} {row : α}
    (h : Serial number (before ++ row :: after)) :
    forall other, other ∈ before ++ after -> number other ≠ number row := by
  have hDistinct : ((before ++ row :: after).map number).Nodup := by
    rw [h]
    exact serials_nodup _
  rw [List.map_append, List.map_cons, List.nodup_middle, List.nodup_cons,
    ← List.map_append] at hDistinct
  intro other hMem hSame
  exact hDistinct.1 (hSame ▸ List.mem_map_of_mem hMem)

theorem amended_others {id : Int} (change : α -> α)
    (hOthers : forall row, row ∈ rows -> number row ≠ id) :
    amended number id change rows = rows := by
  calc
    amended number id change rows
      = rows.map fun row => row := List.map_congr_left fun row hMem => if_neg (hOthers row hMem)
    _ = rows := List.map_id' rows

theorem amended_middle {before after : List α} {row : α} (change : α -> α)
    (h : Serial number (before ++ row :: after)) :
    amended number (number row) change (before ++ row :: after) =
      before ++ change row :: after := by
  have hOthers := serial_others h
  rw [List.forall_mem_append] at hOthers
  have hBefore := amended_others change hOthers.1
  have hAfter := amended_others change hOthers.2
  unfold amended at hBefore hAfter ⊢
  rw [List.map_append, List.map_cons, hBefore, hAfter, if_pos rfl]

/-- The first row that is found is the only one with its id. -/
theorem amend_amends (id : Int) (missing : Fault) (change : α -> α) (h : Serial number rows) :
    match Memory.amend (fun row => number row == id) change rows with
    | some (row, next) => Amends number id missing change rows (.ok row) next
    | none => Amends number id missing change rows (.error missing) rows := by
  cases hFind : rows.find? fun row => number row == id with
  | none =>
      rw [Memory.amend_none hFind]
      exact .missing fun row hMem => by simpa using List.find?_eq_none.mp hFind row hMem
  | some row =>
      rcases List.find?_eq_some_iff_append.mp hFind with ⟨hRow, before, after, rfl, hFirst⟩
      have hAmend : Memory.amend (fun row => number row == id) change (before ++ row :: after) =
          some (change row, before ++ change row :: after) :=
        Memory.amend_some hRow fun other hMem => by simpa using hFirst other hMem
      obtain rfl : number row = id := by simpa using hRow
      rw [hAmend, ← amended_middle change h]
      exact .found (by simp) rfl

section Amends

variable {id : Int} {missing : Fault} {change : α -> α} {outcome : Except Fault α} {next : List α}
  (hAmends : Amends number id missing change rows outcome next)

include hAmends

theorem amends_map {β : Type} {f : α -> β} (hChange : forall row, f (change row) = f row) :
    next.map f = rows.map f := by
  cases hAmends with
  | found _ _ =>
      rw [amended, List.map_map]
      apply List.map_congr_left
      intro row _
      simp only [Function.comp_apply]
      split
      · exact hChange row
      · rfl
  | missing _ => rfl

theorem serial_amends (hId : forall row, number (change row) = number row)
    (h : Serial number rows) : Serial number next := by
  have hSame := amends_map hAmends hId
  have hLength : next.length = rows.length := by
    simpa using congrArg List.length hSame
  unfold Serial
  rw [hSame, hLength]
  exact h

theorem amends_forall₂ {β : Type} {others : List β} {Holds : β -> α -> Prop}
    (hChange : forall other row, Holds other row -> Holds other (change row))
    (h : List.Forall₂ Holds others rows) : List.Forall₂ Holds others next := by
  cases hAmends with
  | found _ _ =>
      rw [amended, List.forall₂_map_right_iff]
      apply h.imp
      intro other row hRow
      split
      · exact hChange other row hRow
      · exact hRow
  | missing _ => exact h

end Amends

/-- Every row is still in its place, as what has become of it. -/
def Carried (Kept : α -> α -> Prop) (rows next : List α) : Prop :=
  forall (k : Nat) (row : α), rows[k]? = some row ->
    exists later, next[k]? = some later ∧ Kept row later

section Carried

variable {Kept : α -> α -> Prop}

theorem carried_push (hRefl : forall row, Kept row row) (rows added : List α) :
    Carried Kept rows (rows ++ added) := by
  intro k row hRow
  rcases List.getElem?_eq_some_iff.mp hRow with ⟨hLess, _⟩
  exact ⟨row, by rw [List.getElem?_append_left hLess, hRow], hRefl row⟩

theorem carried_refl (hRefl : forall row, Kept row row) (rows : List α) :
    Carried Kept rows rows :=
  fun _ row hRow => ⟨row, hRow, hRefl row⟩

theorem carried_trans {next last : List α}
    (hTrans : forall a b c, Kept a b -> Kept b c -> Kept a c) (hFirst : Carried Kept rows next)
    (hLast : Carried Kept next last) : Carried Kept rows last := by
  intro k row hRow
  rcases hFirst k row hRow with ⟨between, hBetween, hKept⟩
  rcases hLast k between hBetween with ⟨later, hLater, hStill⟩
  exact ⟨later, hLater, hTrans _ _ _ hKept hStill⟩

theorem carried_amends {id : Int} {missing : Fault} {change : α -> α} {outcome : Except Fault α}
    {next : List α} (hAmends : Amends number id missing change rows outcome next)
    (hRefl : forall row, Kept row row) (hChange : forall row, Kept row (change row)) :
    Carried Kept rows next := by
  cases hAmends with
  | found _ _ =>
      intro k row hRow
      refine ⟨_, by rw [amended, List.getElem?_map, hRow, Option.map_some], ?_⟩
      split
      · exact hChange row
      · exact hRefl row
  | missing _ => exact carried_refl hRefl rows

end Carried

end Tables

/-!
## Operations
-/

namespace Memory

/-- A request, or a row that an earlier run has left. -/
inductive Operation where
  | request (a : Asked)
  | seedEntry (entry : Ozone.Entry)
  | seedRecord (record : Leak.Record)

def perform (m : Memory) : Operation -> Answer × Memory
  | .request a => m.answer a.now a.request
  | .seedEntry entry => ((m.seedEntry entry).map (fun row => .entry (.ok row)) id)
  | .seedRecord record => ((m.seedRecord record).map (fun row => .record (.ok row)) id)

/-- The store after some operations, the first of them first. -/
def after (m : Memory) (operations : List Operation) : Memory :=
  operations.foldl (fun m operation => (m.perform operation).2) m

/-- What an operation is answered, and what it makes of the tables. -/
inductive Performs (m : Memory) : Operation -> Answer -> Memory -> Prop where
  | saved {now : Instant} {room water : Option Float} {row : Temperature.Sample}
      (hRow : row = ⟨m.samples.length + 1, room, water, now⟩) :
      Performs m (.request ⟨now, .saveSample room water⟩) (.sample (.ok row))
        { m with samples := m.samples ++ [row], writes := m.writes + 1 }
  | latestEntry {now : Instant} {row : Option Ozone.Entry}
      (hRow : Greatest Ozone.Entry.id m.entries row) :
      Performs m (.request ⟨now, .latestEntry⟩) (.latestEntry (.ok row)) m
  | started {now start : Instant} {minutes : Nat} {row : Ozone.Entry}
      (hRow : row = begun (m.entries.length + 1) start minutes) :
      Performs m (.request ⟨now, .startEntry start minutes⟩) (.entry (.ok row))
        { m with entries := m.entries ++ [row], writes := m.writes + 1 }
  | seededEntry {entry row : Ozone.Entry}
      (hRow : row = { entry with id := m.entries.length + 1 }) :
      Performs m (.seedEntry entry) (.entry (.ok row)) { m with entries := m.entries ++ [row] }
  | stopped {now : Instant} {id : Int} {outcome : Except Fault Ozone.Entry}
      {entries : List Ozone.Entry}
      (hAmends : Amends Ozone.Entry.id id (missingEntry id) (close now) m.entries outcome entries) :
      Performs m (.request ⟨now, .stopEntry id⟩) (.entry outcome)
        { m with entries, writes := m.writes + 1 }
  | labelled {now : Instant} {id : Int} {status : String} {outcome : Except Fault Ozone.Entry}
      {entries : List Ozone.Entry}
      (hAmends : Amends Ozone.Entry.id id (missingEntry id) (label status) m.entries outcome
        entries) :
      Performs m (.request ⟨now, .setStatus id status⟩) (.entry outcome)
        { m with entries, writes := m.writes + 1 }
  | latestRecord {now : Instant} {row : Option Leak.Record}
      (hRow : Greatest Leak.Record.id m.records row) :
      Performs m (.request ⟨now, .latestRecord⟩) (.latestRecord (.ok row)) m
  | created {now detected : Instant} {row : Leak.Record}
      (hRow : row = ⟨m.records.length + 1, detected, none⟩) :
      Performs m (.request ⟨now, .createRecord detected⟩) (.record (.ok row))
        { m with records := m.records ++ [row], writes := m.writes + 1 }
  | seededRecord {record row : Leak.Record}
      (hRow : row = { record with id := m.records.length + 1 }) :
      Performs m (.seedRecord record) (.record (.ok row)) { m with records := m.records ++ [row] }
  | cleared {now : Instant} {id : Int} {outcome : Except Fault Leak.Record}
      {records : List Leak.Record}
      (hAmends : Amends Leak.Record.id id (missingRecord id) (clear now) m.records outcome
        records) :
      Performs m (.request ⟨now, .clearRecord id⟩) (.record outcome)
        { m with records, writes := m.writes + 1 }

/-- Each table is numbered from one. -/
structure Serial (m : Memory) : Prop where
  samples : Store.Serial Temperature.Sample.id m.samples
  entries : Store.Serial Ozone.Entry.id m.entries
  records : Store.Serial Leak.Record.id m.records

theorem serial_empty : Serial empty :=
  ⟨rfl, rfl, rfl⟩

theorem amendEntry_amends {m : Memory} (id : Int) (change : Ozone.Entry -> Ozone.Entry)
    (h : m.Serial) :
    exists outcome entries, m.amendEntry id change =
        (outcome, { m with entries, writes := m.writes + 1 }) ∧
      Amends Ozone.Entry.id id (missingEntry id) change m.entries outcome entries := by
  have hAmends := amend_amends id (missingEntry id) change h.entries
  unfold amendEntry
  split at hAmends
  · next row next hSome =>
      rw [hSome]
      exact ⟨_, _, rfl, hAmends⟩
  · next hNone =>
      rw [hNone]
      exact ⟨_, _, rfl, hAmends⟩

theorem clearRecord_amends {m : Memory} (now : Instant) (id : Int) (h : m.Serial) :
    exists outcome records, m.clearRecord now id =
        (outcome, { m with records, writes := m.writes + 1 }) ∧
      Amends Leak.Record.id id (missingRecord id) (clear now) m.records outcome records := by
  have hAmends := amend_amends id (missingRecord id) (clear now) h.records
  unfold clearRecord
  split at hAmends
  · next row next hSome =>
      unfold clear at hSome
      rw [hSome]
      exact ⟨_, _, rfl, hAmends⟩
  · next hNone =>
      unfold clear at hNone
      rw [hNone]
      exact ⟨_, _, rfl, hAmends⟩

theorem performs {m : Memory} (h : m.Serial) (operation : Operation) :
    m.Performs operation (m.perform operation).1 (m.perform operation).2 := by
  cases operation with
  | seedEntry entry => exact .seededEntry rfl
  | seedRecord record => exact .seededRecord rfl
  | request a =>
      rcases a with ⟨now, request⟩
      cases request with
      | saveSample room water => exact .saved rfl
      | latestEntry => exact .latestEntry (serial_latest h.entries)
      | startEntry start minutes => exact .started rfl
      | stopEntry id =>
          rcases amendEntry_amends id (close now) h with ⟨outcome, entries, hEq, hAmends⟩
          have hStop : m.perform (.request ⟨now, .stopEntry id⟩) =
              (.entry outcome, { m with entries, writes := m.writes + 1 }) :=
            congrArg (fun result => (Answer.entry result.1, result.2)) hEq
          rw [hStop]
          exact .stopped hAmends
      | setStatus id status =>
          rcases amendEntry_amends id (label status) h with ⟨outcome, entries, hEq, hAmends⟩
          have hLabel : m.perform (.request ⟨now, .setStatus id status⟩) =
              (.entry outcome, { m with entries, writes := m.writes + 1 }) :=
            congrArg (fun result => (Answer.entry result.1, result.2)) hEq
          rw [hLabel]
          exact .labelled hAmends
      | latestRecord => exact .latestRecord (serial_latest h.records)
      | createRecord detected => exact .created rfl
      | clearRecord id =>
          rcases clearRecord_amends now id h with ⟨outcome, records, hEq, hAmends⟩
          have hClear : m.perform (.request ⟨now, .clearRecord id⟩) =
              (.record outcome, { m with records, writes := m.writes + 1 }) :=
            congrArg (fun result => (Answer.record result.1, result.2)) hEq
          rw [hClear]
          exact .cleared hAmends

theorem serial_performs {m next : Memory} {operation : Operation} {answer : Answer}
    (h : m.Serial) (hPerforms : m.Performs operation answer next) : next.Serial := by
  cases hPerforms with
  | latestEntry _ => exact h
  | latestRecord _ => exact h
  | saved hRow => exact ⟨serial_push h.samples (by rw [hRow]), h.entries, h.records⟩
  | started hRow => exact ⟨h.samples, serial_push h.entries (by rw [hRow]; rfl), h.records⟩
  | seededEntry hRow => exact ⟨h.samples, serial_push h.entries (by rw [hRow]), h.records⟩
  | stopped hAmends =>
      exact ⟨h.samples, serial_amends hAmends (fun _ => rfl) h.entries, h.records⟩
  | labelled hAmends =>
      exact ⟨h.samples, serial_amends hAmends (fun _ => rfl) h.entries, h.records⟩
  | created hRow => exact ⟨h.samples, h.entries, serial_push h.records (by rw [hRow])⟩
  | seededRecord hRow => exact ⟨h.samples, h.entries, serial_push h.records (by rw [hRow])⟩
  | cleared hAmends =>
      exact ⟨h.samples, h.entries, serial_amends hAmends (fun _ => rfl) h.records⟩

/-!
## Where rows come from
-/

inductive Origin where
  | started (start : Instant) (minutes : Nat)
  | seeded (entry : Ozone.Entry)

def Operation.origin? : Operation -> Option Origin
  | .request ⟨_, .startEntry start minutes⟩ => some (.started start minutes)
  | .seedEntry entry => some (.seeded entry)
  | _ => none

/-- What is to be said of the row for all time.  A row that was seeded may contradict itself. -/
def Origin.Stems : Origin -> Ozone.Entry -> Prop
  | .started start minutes, row =>
      row.start = start ∧ row.minutes = minutes ∧ (row.running = true ↔ row.stop = none)
  | .seeded entry, row => row.start = entry.start ∧ row.minutes = entry.minutes

def Operation.detected? : Operation -> Option Instant
  | .request ⟨_, .createRecord detected⟩ => some detected
  | .seedRecord record => some record.detected
  | _ => none

theorem stems_close (now : Instant) (origin : Origin) (row : Ozone.Entry) (h : origin.Stems row) :
    origin.Stems (close now row) := by
  cases origin with
  | started start minutes => exact ⟨h.1, h.2.1, by simp [close]⟩
  | seeded entry => exact h

theorem stems_label (status : String) (origin : Origin) (row : Ozone.Entry)
    (h : origin.Stems row) : origin.Stems (label status row) := by
  cases origin with
  | started start minutes => exact h
  | seeded entry => exact h

theorem stems_performs {m next : Memory} {operation : Operation} {answer : Answer}
    {origins : List Origin} (hPerforms : m.Performs operation answer next)
    (h : List.Forall₂ Origin.Stems origins m.entries) :
    List.Forall₂ Origin.Stems (origins ++ operation.origin?.toList) next.entries := by
  have hSame := h
  rw [← List.append_nil origins] at hSame
  cases hPerforms with
  | latestEntry _ => exact hSame
  | latestRecord _ => exact hSame
  | saved _ => exact hSame
  | created _ => exact hSame
  | seededRecord _ => exact hSame
  | cleared _ => exact hSame
  | stopped hAmends => exact amends_forall₂ hAmends (stems_close _) hSame
  | labelled hAmends => exact amends_forall₂ hAmends (stems_label _) hSame
  | started hRow =>
      subst hRow
      exact List.rel_append h (.cons ⟨rfl, rfl, by simp [begun]⟩ .nil)
  | seededEntry hRow =>
      subst hRow
      exact List.rel_append h (.cons ⟨rfl, rfl⟩ .nil)

theorem detected_performs {m next : Memory} {operation : Operation} {answer : Answer}
    (hPerforms : m.Performs operation answer next) :
    next.records.map Leak.Record.detected =
      m.records.map Leak.Record.detected ++ operation.detected?.toList := by
  cases hPerforms with
  | latestEntry _ => exact (List.append_nil _).symm
  | latestRecord _ => exact (List.append_nil _).symm
  | saved _ => exact (List.append_nil _).symm
  | started _ => exact (List.append_nil _).symm
  | seededEntry _ => exact (List.append_nil _).symm
  | stopped _ => exact (List.append_nil _).symm
  | labelled _ => exact (List.append_nil _).symm
  | created hRow =>
      subst hRow
      exact List.map_append
  | seededRecord hRow =>
      subst hRow
      exact List.map_append
  | cleared hAmends =>
      have hSame : _ = m.records.map Leak.Record.detected := amends_map hAmends fun _ => rfl
      exact hSame.trans (List.append_nil _).symm

/-- What is to be said of the tables after some operations. -/
structure Stands (operations : List Operation) (m : Memory) : Prop where
  serial : m.Serial
  entries : List.Forall₂ Origin.Stems (operations.filterMap Operation.origin?) m.entries
  records : m.records.map Leak.Record.detected = operations.filterMap Operation.detected?

theorem after_append (m : Memory) (first rest : List Operation) :
    m.after (first ++ rest) = (m.after first).after rest := by
  simp [after]

theorem stands_after (operations : List Operation) :
    Stands operations (empty.after operations) := by
  induction operations using List.reverseRecOn with
  | nil => exact ⟨serial_empty, .nil, rfl⟩
  | append_singleton operations operation ih =>
      have hPerforms := performs ih.serial operation
      rw [after_append]
      constructor
      · exact serial_performs ih.serial hPerforms
      · rw [List.filterMap_append, List.filterMap_cons, List.filterMap_nil]
        have hStems := stems_performs hPerforms ih.entries
        revert hStems
        cases operation.origin? <;> exact id
      · rw [List.filterMap_append, List.filterMap_cons, List.filterMap_nil]
        have hDetected := detected_performs hPerforms
        rw [ih.records] at hDetected
        revert hDetected
        cases operation.detected? <;> exact id

/-!
## What becomes of rows
-/

structure EntryKept (row later : Ozone.Entry) : Prop where
  id : later.id = row.id
  start : later.start = row.start
  minutes : later.minutes = row.minutes
  running : row.running = false -> later.running = false
  stop : row.stop.isSome = true -> later.stop.isSome = true

structure RecordKept (row later : Leak.Record) : Prop where
  id : later.id = row.id
  detected : later.detected = row.detected
  cleared : row.isOpen = false -> later.isOpen = false

/-- Every row is still there.  Samples stay as they are. -/
structure Carries (m next : Memory) : Prop where
  samples : Carried Eq m.samples next.samples
  entries : Carried EntryKept m.entries next.entries
  records : Carried RecordKept m.records next.records

theorem entryKept_refl (row : Ozone.Entry) : EntryKept row row :=
  ⟨rfl, rfl, rfl, id, id⟩

theorem recordKept_refl (row : Leak.Record) : RecordKept row row :=
  ⟨rfl, rfl, id⟩

theorem entryKept_trans (a b c : Ozone.Entry) (hFirst : EntryKept a b) (hLast : EntryKept b c) :
    EntryKept a c :=
  ⟨hLast.id.trans hFirst.id, hLast.start.trans hFirst.start, hLast.minutes.trans hFirst.minutes,
    fun h => hLast.running (hFirst.running h), fun h => hLast.stop (hFirst.stop h)⟩

theorem recordKept_trans (a b c : Leak.Record) (hFirst : RecordKept a b) (hLast : RecordKept b c) :
    RecordKept a c :=
  ⟨hLast.id.trans hFirst.id, hLast.detected.trans hFirst.detected,
    fun h => hLast.cleared (hFirst.cleared h)⟩

theorem carries_refl (m : Memory) : m.Carries m :=
  ⟨carried_refl (fun _ => rfl) _, carried_refl entryKept_refl _, carried_refl recordKept_refl _⟩

theorem carries_trans {m next last : Memory} (hFirst : m.Carries next) (hLast : next.Carries last) :
    m.Carries last :=
  ⟨carried_trans (fun _ _ _ => Eq.trans) hFirst.samples hLast.samples,
    carried_trans entryKept_trans hFirst.entries hLast.entries,
    carried_trans recordKept_trans hFirst.records hLast.records⟩

theorem carries_performs {m next : Memory} {operation : Operation} {answer : Answer}
    (hPerforms : m.Performs operation answer next) : m.Carries next := by
  have hRefl := carries_refl m
  cases hPerforms with
  | latestEntry _ => exact hRefl
  | latestRecord _ => exact hRefl
  | saved _ => exact ⟨carried_push (fun _ => rfl) _ _, hRefl.entries, hRefl.records⟩
  | started _ => exact ⟨hRefl.samples, carried_push entryKept_refl _ _, hRefl.records⟩
  | seededEntry _ => exact ⟨hRefl.samples, carried_push entryKept_refl _ _, hRefl.records⟩
  | created _ => exact ⟨hRefl.samples, hRefl.entries, carried_push recordKept_refl _ _⟩
  | seededRecord _ => exact ⟨hRefl.samples, hRefl.entries, carried_push recordKept_refl _ _⟩
  | stopped hAmends =>
      exact ⟨hRefl.samples, carried_amends hAmends entryKept_refl fun _ =>
        ⟨rfl, rfl, rfl, fun _ => rfl, fun _ => rfl⟩, hRefl.records⟩
  | labelled hAmends =>
      exact ⟨hRefl.samples, carried_amends hAmends entryKept_refl fun _ =>
        ⟨rfl, rfl, rfl, id, id⟩, hRefl.records⟩
  | cleared hAmends =>
      exact ⟨hRefl.samples, hRefl.entries, carried_amends hAmends recordKept_refl fun _ =>
        ⟨rfl, rfl, fun _ => rfl⟩⟩

theorem carries_after {m : Memory} (h : m.Serial) (operations : List Operation) :
    m.Carries (m.after operations) := by
  induction operations generalizing m with
  | nil => exact carries_refl m
  | cons operation rest ih =>
      have hPerforms := performs h operation
      exact carries_trans (carries_performs hPerforms) (ih (serial_performs h hPerforms))

/-!
## The law
-/

/--
After any operations on the empty store, each table is numbered from one in the order in which its
rows came, and each row is what has become of its origin.  Any operation then answers and changes
what it should and nothing else.  Whatever comes later, every row is still in its place, with its id
and with what it began with, and a row that is closed stays closed.
-/
theorem memory_rows_law (operations : List Operation) :
    let m := empty.after operations
    Stands operations m ∧
      (forall operation, m.Performs operation (m.perform operation).1 (m.perform operation).2) ∧
      forall later, m.Carries (empty.after (operations ++ later)) := by
  intro m
  have hStands := stands_after operations
  refine ⟨hStands, performs hStands.serial, ?_⟩
  intro later
  rw [after_append]
  exact carries_after hStands.serial later

end Memory
end Store
end TubMonitor
