import Mathlib.Data.List.Forall2
import TubMonitor.Proofs.Store.Numbering

/-!
# Stores that are alike

Stores are alike if their rows are read as the same and their next rows get the same ids.  Alike
stores answer every request alike and stay alike, whatever each of them keeps its rows in.
-/

namespace TubMonitor

/-!
## Instants that clocks show
-/

namespace Time.Instant

def IsDated (t : Instant) : Prop :=
  t.IsProper ∧ t.inCalendar = true

instance (t : Instant) : Decidable t.IsProper :=
  inferInstanceAs (Decidable (_ ∨ _))

instance (t : Instant) : Decidable t.IsDated :=
  inferInstanceAs (Decidable (_ ∧ _))

theorem legible_of_isDated {t : Instant} (h : t.IsDated) : t.Legible :=
  read?_cellStamp h.1 h.2

end Time.Instant

namespace Store

/-!
## Rows and tables
-/

section Sheets

variable {α : Type} [Form α]

def Row.Same (row other : Row α) : Prop :=
  exists a, row.value? = some a ∧ other.value? = some a

theorem Row.same_id {row other : Row α} (h : row.Same other) : row.id = other.id := by
  rcases h with ⟨a, hRow, hOther⟩
  rw [← Row.number_value hRow, ← Row.number_value hOther]

theorem Row.same_readOut {row other : Row α} (h : row.Same other) :
    row.readOut = other.readOut := by
  rcases h with ⟨a, hRow, hOther⟩
  rw [Row.readOut_ok hRow, Row.readOut_ok hOther]

namespace Sheet

/-- The rows are the same one by one, and so is the last id that was given out. -/
structure Alike (t u : Sheet α) : Prop where
  rows : List.Forall₂ Row.Same t.rows u.rows
  lastId : t.lastId = u.lastId
  numbered : t.Numbered ∧ u.Numbered

theorem alike_empty (lastId : Int) : (Sheet.mk [] lastId : Sheet α).Alike ⟨[], lastId⟩ :=
  ⟨.nil, rfl, empty_numbered lastId, empty_numbered lastId⟩

theorem latest_alike {t u : Sheet α} (h : t.Alike u) : t.latest = u.latest := by
  have hReversed : List.Forall₂ Row.Same t.rows.reverse u.rows.reverse :=
    List.forall₂_reverse_iff.mpr h.rows
  unfold latest
  rw [List.getLast?_eq_head?_reverse, List.getLast?_eq_head?_reverse]
  generalize t.rows.reverse = rows at hReversed
  generalize u.rows.reverse = others at hReversed
  cases hReversed with
  | nil => rfl
  | cons hLast _ => exact congrArg (Except.map some) (Row.same_readOut hLast)

theorem found_alike {t u : Sheet α} (h : t.Alike u) (id : Int) (missing : Fault) :
    t.found id missing = u.found id missing := by
  have hRows := h.rows
  unfold found
  generalize t.rows = rows at hRows
  generalize u.rows = others at hRows
  induction hRows with
  | nil => rfl
  | @cons row other rows others hSame _ ih =>
      rw [List.find?_cons, List.find?_cons, Row.same_id hSame]
      cases other.id == id with
      | true => exact Row.same_readOut hSame
      | false => exact ih

theorem push_alike {t u : Sheet α} {row other : Row α} {a : α} (h : t.Alike u)
    (hRow : row.value? = some a) (hOther : other.value? = some a)
    (hNumber : Form.number a = t.lastId + 1) : (t.push row).Alike (u.push other) := by
  have hRowId : row.id = t.lastId + 1 := (Row.number_value hRow).symm.trans hNumber
  have hOtherId : other.id = u.lastId + 1 := by
    rw [← Row.number_value hOther, hNumber, h.lastId]
  constructor
  · exact List.rel_append h.rows (.cons ⟨a, hRow, hOther⟩ .nil)
  · show t.lastId + 1 = u.lastId + 1
    rw [h.lastId]
  · exact ⟨push_numbered h.numbered.1 hRowId, push_numbered h.numbered.2 hOtherId⟩

theorem amend_alike {t u : Sheet α} {change : α -> α} {amended : Row α -> Row α} (h : t.Alike u)
    (id : Int) (hId : forall row, (amended row).id = row.id)
    (hChange : forall row a, row.value? = some a -> (amended row).value? = some (change a)) :
    (t.amend id amended).Alike (u.amend id amended) := by
  constructor
  · simp only [amend, List.forall₂_map_left_iff, List.forall₂_map_right_iff]
    refine h.rows.imp ?_
    intro row other hSame
    rw [Row.same_id hSame]
    split
    · rcases hSame with ⟨a, hRow, hOther⟩
      exact ⟨change a, hChange row a hRow, hChange other a hOther⟩
    · exact hSame
  · exact h.lastId
  · exact ⟨amend_numbered h.numbered.1 id hId, amend_numbered h.numbered.2 id hId⟩

end Sheet

end Sheets

/-!
## Stores
-/

def nextSample : Store -> Int
  | .memory m => Memory.nextId m.samples
  | .database d => d.samples.lastId + 1

structure Alike (s t : Store) : Prop where
  samples : s.nextSample = t.nextSample
  entries : s.entrySheet.Alike t.entrySheet
  records : s.recordSheet.Alike t.recordSheet

theorem alike_empty : Alike (.memory .empty) (.database .empty) where
  samples := rfl
  entries := Sheet.alike_empty 0
  records := Sheet.alike_empty 0

theorem answer_saveSample (s : Store) (now : Time.Instant) (room water : Option Float) :
    (s.answer now (.saveSample room water)).1 =
        .sample (.ok { id := s.nextSample, room, water, taken := now }) ∧
      (s.answer now (.saveSample room water)).2.nextSample = s.nextSample + 1 := by
  cases s with
  | memory m =>
      refine ⟨rfl, ?_⟩
      simp [answer, Memory.answer, Memory.saveSample, nextSample, Memory.nextId]
  | database d => exact ⟨rfl, rfl⟩

theorem nextSample_apart {s : Store} (now : Time.Instant) {request : Request}
    (h : request.source ≠ .temperature) : (s.answer now request).2.nextSample = s.nextSample := by
  have hOwn (s : Store) : (s.only .temperature).nextSample = s.nextSample := by
    cases s <;> rfl
  rw [← hOwn, answer_apart s now h, hOwn]

def Request.instant? : Request -> Option Time.Instant
  | .startEntry start _ => some start
  | .createRecord detected => some detected
  | _ => none

structure Asked where
  now : Time.Instant
  request : Request

def Asked.IsDated (a : Asked) : Prop :=
  a.now.IsDated ∧ forall t, t ∈ a.request.instant? -> t.IsDated

instance (a : Asked) : Decidable a.IsDated :=
  inferInstanceAs (Decidable (_ ∧ _))

theorem samples_answer {s t : Store} (now : Time.Instant) (request : Request)
    (h : s.nextSample = t.nextSample) :
    (request.source = .temperature -> (s.answer now request).1 = (t.answer now request).1) ∧
      (s.answer now request).2.nextSample = (t.answer now request).2.nextSample := by
  have hApart (hOther : request.source ≠ .temperature) :
      (s.answer now request).2.nextSample = (t.answer now request).2.nextSample := by
    rw [nextSample_apart now hOther, nextSample_apart now hOther, h]
  cases request with
  | saveSample room water =>
      have hFirst := answer_saveSample s now room water
      have hSecond := answer_saveSample t now room water
      rw [hFirst.1, hFirst.2, hSecond.1, hSecond.2, h]
      exact ⟨fun _ => rfl, rfl⟩
  | _ => exact ⟨(fun hOwn => by cases hOwn), hApart Notice.Source.noConfusion⟩

theorem entries_answer {s t : Store} {a : Asked} (h : s.entrySheet.Alike t.entrySheet)
    (hDated : a.IsDated) :
    (a.request.source = .ozone ->
        (s.answer a.now a.request).1 = (t.answer a.now a.request).1) ∧
      (s.answer a.now a.request).2.entrySheet.Alike (t.answer a.now a.request).2.entrySheet := by
  obtain ⟨now, request⟩ := a
  have hNow := Time.Instant.legible_of_isDated hDated.1
  have hApart (hOther : request.source ≠ .ozone) :
      (s.answer now request).2.entrySheet.Alike (t.answer now request).2.entrySheet := by
    rw [entrySheet_only (answer_apart s now hOther), entrySheet_only (answer_apart t now hOther)]
    exact h
  cases request with
  | latestEntry =>
      dsimp only
      rw [answer_latestEntry now h.numbered.1, answer_latestEntry now h.numbered.2,
        Sheet.latest_alike h]
      exact ⟨fun _ => rfl, h⟩
  | startEntry start minutes =>
      have hStart := Time.Instant.legible_of_isDated (hDated.2 start rfl)
      rcases answer_startEntry s now start minutes with ⟨row, _, hRow, hFirst, hSheet⟩
      rcases answer_startEntry t now start minutes with ⟨other, _, hOther, hSecond, hOtherSheet⟩
      dsimp only
      rw [← h.lastId] at hOther hSecond
      rw [hFirst, hSecond, hSheet, hOtherSheet]
      exact ⟨fun _ => rfl, Sheet.push_alike h (hRow hStart) (hOther hStart) rfl⟩
  | stopEntry id =>
      have hFirst := answer_stopEntry now id h.numbered.1
      have hSecond := answer_stopEntry now id h.numbered.2
      have hAmended := Sheet.amend_alike h id (id_closed now) fun _ _ => value?_closed hNow
      dsimp only
      rw [hFirst.1, hFirst.2, hSecond.1, hSecond.2, Sheet.found_alike hAmended]
      exact ⟨fun _ => rfl, hAmended⟩
  | setStatus id status =>
      have hFirst := answer_setStatus now id status h.numbered.1
      have hSecond := answer_setStatus now id status h.numbered.2
      have hAmended := Sheet.amend_alike h id (id_labelled status) fun _ _ => value?_labelled
      dsimp only
      rw [hFirst.1, hFirst.2, hSecond.1, hSecond.2, Sheet.found_alike hAmended]
      exact ⟨fun _ => rfl, hAmended⟩
  | _ => exact ⟨(fun hOwn => by cases hOwn), hApart Notice.Source.noConfusion⟩

theorem records_answer {s t : Store} {a : Asked} (h : s.recordSheet.Alike t.recordSheet)
    (hDated : a.IsDated) :
    (a.request.source = .leak ->
        (s.answer a.now a.request).1 = (t.answer a.now a.request).1) ∧
      (s.answer a.now a.request).2.recordSheet.Alike
        (t.answer a.now a.request).2.recordSheet := by
  obtain ⟨now, request⟩ := a
  have hNow := Time.Instant.legible_of_isDated hDated.1
  have hApart (hOther : request.source ≠ .leak) :
      (s.answer now request).2.recordSheet.Alike (t.answer now request).2.recordSheet := by
    rw [recordSheet_only (answer_apart s now hOther),
      recordSheet_only (answer_apart t now hOther)]
    exact h
  cases request with
  | latestRecord =>
      dsimp only
      rw [answer_latestRecord now h.numbered.1, answer_latestRecord now h.numbered.2,
        Sheet.latest_alike h]
      exact ⟨fun _ => rfl, h⟩
  | createRecord detected =>
      have hDetected := Time.Instant.legible_of_isDated (hDated.2 detected rfl)
      rcases answer_createRecord s now detected with ⟨row, _, hRow, hFirst, hSheet⟩
      rcases answer_createRecord t now detected with ⟨other, _, hOther, hSecond, hOtherSheet⟩
      dsimp only
      rw [← h.lastId] at hOther hSecond
      rw [hFirst, hSecond, hSheet, hOtherSheet]
      exact ⟨fun _ => rfl, Sheet.push_alike h (hRow hDetected) (hOther hDetected) rfl⟩
  | clearRecord id =>
      have hFirst := answer_clearRecord now id h.numbered.1
      have hSecond := answer_clearRecord now id h.numbered.2
      have hAmended := Sheet.amend_alike h id (id_cleared now) fun _ _ => value?_cleared hNow
      dsimp only
      rw [hFirst.1, hFirst.2, hSecond.1, hSecond.2, Sheet.found_alike hAmended]
      exact ⟨fun _ => rfl, hAmended⟩
  | _ => exact ⟨(fun hOwn => by cases hOwn), hApart Notice.Source.noConfusion⟩

theorem alike_answer {s t : Store} {a : Asked} (h : Alike s t) (hDated : a.IsDated) :
    (s.answer a.now a.request).1 = (t.answer a.now a.request).1 ∧
      Alike (s.answer a.now a.request).2 (t.answer a.now a.request).2 := by
  have hSamples := samples_answer a.now a.request h.samples
  have hEntries := entries_answer h.entries hDated
  have hRecords := records_answer h.records hDated
  refine ⟨?_, hSamples.2, hEntries.2, hRecords.2⟩
  cases hSource : a.request.source with
  | temperature => exact hSamples.1 hSource
  | ozone => exact hEntries.1 hSource
  | leak => exact hRecords.1 hSource

end Store
end TubMonitor
