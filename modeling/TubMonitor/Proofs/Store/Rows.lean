import TubMonitor.Proofs.Isolation.Rows
import TubMonitor.Proofs.Time.Stamps
import TubMonitor.Store.Database

/-!
# The rows of a table

Both stores keep a table as a list of rows with the last id that was given out.  A row
is kept as it is or as cells that are read back.  What the requests do is said here once
for both: a new row comes last under the next id, and a change finds its row by the id.
-/

namespace TubMonitor
namespace Store

/-!
## Rows
-/

inductive Row (α : Type) where
  | kept (row : α)
  | cells (id : Int) (cells : List Cell)

/-- What the rows of a table are numbered by and read as. -/
class Form (α : Type) where
  number : α -> Int
  read? : Int -> List Cell -> Option α
  number_read {id : Int} {cells : List Cell} {a : α} (h : read? id cells = some a) : number a = id

section Rows

variable {α : Type} [Form α]

def Row.id : Row α -> Int
  | .kept row => Form.number row
  | .cells id _ => id

def Row.value? : Row α -> Option α
  | .kept row => some row
  | .cells id held => Form.read? id held

theorem Row.number_value {row : Row α} {a : α} (h : row.value? = some a) :
    Form.number a = row.id := by
  cases row with
  | kept row =>
      cases h
      rfl
  | cells id cells => exact Form.number_read h

def Row.readOut (row : Row α) : Except Fault α :=
  match row.value? with
  | some a => .ok a
  | none => .error (.storage "row cannot be read")

theorem Row.readOut_ok {row : Row α} {a : α} (h : row.value? = some a) : row.readOut = .ok a := by
  rw [readOut, h]

theorem Row.value?_of_readOut {row : Row α} {a : α} (h : row.readOut = .ok a) :
    row.value? = some a := by
  unfold readOut at h
  split at h
  · next b hValue =>
      cases h
      exact hValue
  · cases h

/-!
## Tables
-/

structure Sheet (α : Type) where
  rows : List (Row α)
  lastId : Int

namespace Sheet

def ofMemory (rows : List α) : Sheet α :=
  ⟨rows.map .kept, rows.length⟩

def ofTable (t : Table) : Sheet α :=
  ⟨t.rows.map fun row => .cells row.1 row.2, t.lastId⟩

def ids (t : Sheet α) : List Int :=
  t.rows.map Row.id

/-- The ids grow, and none is greater than the last one that was given out. -/
structure Numbered (t : Sheet α) : Prop where
  growing : t.ids.Pairwise (· < ·)
  given : forall id, id ∈ t.ids -> id ≤ t.lastId

def push (t : Sheet α) (row : Row α) : Sheet α :=
  ⟨t.rows ++ [row], t.lastId + 1⟩

def amend (t : Sheet α) (id : Int) (change : Row α -> Row α) : Sheet α :=
  { t with rows := t.rows.map fun row => if row.id = id then change row else row }

def latest (t : Sheet α) : Except Fault (Option α) :=
  match t.rows.getLast? with
  | none => .ok none
  | some row => row.readOut.map some

def found (t : Sheet α) (id : Int) (missing : Fault) : Except Fault α :=
  match t.rows.find? fun row => row.id == id with
  | none => .error missing
  | some row => row.readOut

theorem empty_numbered (lastId : Int) : (Sheet.mk [] lastId : Sheet α).Numbered :=
  ⟨List.Pairwise.nil, fun _ hMem => by cases hMem⟩

theorem push_numbered {t : Sheet α} {row : Row α} (h : t.Numbered) (hId : row.id = t.lastId + 1) :
    (t.push row).Numbered := by
  constructor
  · simp only [ids, push, List.map_append, List.map_cons, List.map_nil, List.pairwise_append]
    refine ⟨h.growing, List.pairwise_singleton .., ?_⟩
    intro id hMem last hLast
    rw [List.mem_singleton.mp hLast, hId]
    have hGiven := h.given id hMem
    omega
  · intro id hMem
    simp only [ids, push, List.map_append, List.map_cons, List.map_nil, List.mem_append,
      List.mem_singleton] at hMem
    show id ≤ t.lastId + 1
    rcases hMem with hBefore | rfl
    · have hGiven := h.given id hBefore
      omega
    · omega

theorem amend_ids (t : Sheet α) (id : Int) {change : Row α -> Row α}
    (hId : forall row, (change row).id = row.id) : (t.amend id change).ids = t.ids := by
  simp only [ids, amend, List.map_map]
  apply List.map_congr_left
  intro row _
  simp only [Function.comp_apply]
  split
  · exact hId row
  · rfl

theorem amend_numbered {t : Sheet α} {change : Row α -> Row α} (h : t.Numbered) (id : Int)
    (hId : forall row, (change row).id = row.id) : (t.amend id change).Numbered := by
  have hIds := amend_ids t id hId
  exact ⟨hIds ▸ h.growing, hIds ▸ h.given⟩

theorem amend_others {rows : List (Row α)} {id : Int} (change : Row α -> Row α)
    (h : forall row, row ∈ rows -> row.id ≠ id) :
    rows.map (fun row => if row.id = id then change row else row) = rows := by
  have hSame : rows.map (fun row => if row.id = id then change row else row) =
      rows.map (fun row => row) :=
    List.map_congr_left fun row hMem => if_neg (h row hMem)
  rw [hSame, List.map_id']

theorem last_id_ne {t : Sheet α} {earlier : List (Row α)} {last : Row α} (h : t.Numbered)
    (hRows : t.rows = earlier ++ [last]) (row : Row α) (hMem : row ∈ earlier) :
    row.id ≠ last.id := by
  have hGrowing := h.growing
  rw [ids, hRows, List.map_append, List.pairwise_append] at hGrowing
  have hLess := hGrowing.2.2 row.id (List.mem_map_of_mem hMem) last.id (by simp)
  omega

theorem amend_last {t : Sheet α} {earlier : List (Row α)} {last : Row α}
    (change : Row α -> Row α) (h : t.Numbered) (hRows : t.rows = earlier ++ [last]) :
    (t.amend last.id change).rows = earlier ++ [change last] := by
  have hOthers := amend_others change (last_id_ne h hRows)
  simp [amend, hRows, hOthers]

theorem found_last {t : Sheet α} {earlier : List (Row α)} {last : Row α} (h : t.Numbered)
    (hRows : t.rows = earlier ++ [last]) (missing : Fault) :
    t.found last.id missing = last.readOut := by
  have hNone : earlier.find? (fun row => row.id == last.id) = none := by
    rw [List.find?_eq_none]
    intro row hMem
    simpa using last_id_ne h hRows row hMem
  simp [found, hRows, List.find?_append, hNone]

theorem latest_last {t : Sheet α} {earlier : List (Row α)} {last : Row α}
    (hRows : t.rows = earlier ++ [last]) : t.latest = last.readOut.map some := by
  simp [latest, hRows]

theorem latest_some {t : Sheet α} {a : α} (h : t.latest = .ok (some a)) :
    exists earlier last, t.rows = earlier ++ [last] ∧ last.value? = some a := by
  cases hLast : t.rows.getLast? with
  | none =>
      rw [latest, hLast] at h
      cases h
  | some last =>
      rcases List.getLast?_eq_some_iff.mp hLast with ⟨earlier, hRows⟩
      refine ⟨earlier, last, hRows, ?_⟩
      rw [latest_last hRows] at h
      apply Row.value?_of_readOut
      cases hRead : last.readOut with
      | error fault =>
          rw [hRead] at h
          cases h
      | ok b =>
          rw [hRead] at h
          have hSame : some b = some a := Except.ok.inj h
          rw [Option.some.inj hSame]

theorem latest_push {t : Sheet α} {row : Row α} {a : α} (h : row.value? = some a) :
    (t.push row).latest = .ok (some a) := by
  rw [latest_last (show (t.push row).rows = t.rows ++ [row] from rfl), Row.readOut_ok h]
  rfl

theorem latest_amend {t : Sheet α} {a b : α} {change : Row α -> Row α} (h : t.Numbered)
    (hLatest : t.latest = .ok (some a))
    (hChange : forall row, row.value? = some a -> (change row).value? = some b) :
    (t.amend (Form.number a) change).latest = .ok (some b) := by
  rcases latest_some hLatest with ⟨earlier, last, hRows, hLast⟩
  have hAmended := amend_last change h hRows
  rw [Row.number_value hLast, latest_last hAmended, Row.readOut_ok (hChange last hLast)]
  rfl

/-!
## Rows that have been added
-/

/-- After the rows that were there before stand others, and this is what they are read as. -/
structure Extends (base : List (Row α)) (t : Sheet α) (added : List α) : Prop where
  numbered : t.Numbered
  rows : exists later, t.rows = base ++ later ∧ later.map Row.value? = added.map some

theorem extends_self {t : Sheet α} (h : t.Numbered) : Extends t.rows t [] :=
  ⟨h, [], by simp, rfl⟩

theorem extends_push {base : List (Row α)} {t : Sheet α} {added : List α} {row : Row α} {a : α}
    (h : Extends base t added) (hId : row.id = t.lastId + 1) (hValue : row.value? = some a) :
    Extends base (t.push row) (added ++ [a]) := by
  rcases h.rows with ⟨later, hRows, hValues⟩
  refine ⟨push_numbered h.numbered hId, later ++ [row], ?_, ?_⟩
  · simp [push, hRows]
  · simp [hValues, hValue]

theorem extends_last {base : List (Row α)} {t : Sheet α} {added : List α} {a : α}
    (h : Extends base t (added ++ [a])) :
    exists later last, t.rows = base ++ later ++ [last] ∧ later.map Row.value? = added.map some ∧
      last.value? = some a ∧ last.id = Form.number a := by
  rcases h.rows with ⟨rows, hRows, hValues⟩
  rw [List.map_append, List.map_eq_append_iff] at hValues
  rcases hValues with ⟨later, ending, rfl, hLater, hEnding⟩
  rw [List.map_singleton, List.map_eq_singleton_iff] at hEnding
  rcases hEnding with ⟨last, rfl, hLast⟩
  exact ⟨later, last, by simp [hRows], hLater, hLast, (Row.number_value hLast).symm⟩

theorem extends_amend {base : List (Row α)} {t : Sheet α} {added : List α} {a b : α}
    {change : Row α -> Row α} (h : Extends base t (added ++ [a]))
    (hId : forall row, (change row).id = row.id)
    (hChange : forall row, row.value? = some a -> (change row).value? = some b)
    (missing : Fault) :
    Extends base (t.amend (Form.number a) change) (added ++ [b]) ∧
      (t.amend (Form.number a) change).found (Form.number a) missing = .ok b := by
  rcases extends_last h with ⟨later, last, hRows, hLater, hLast, hNumber⟩
  have hAmended := amend_last change h.numbered hRows
  have hNumbered := amend_numbered h.numbered (Form.number a) hId
  rw [← hNumber]
  rw [← hNumber] at hNumbered
  refine ⟨⟨hNumbered, later ++ [change last], ?_, ?_⟩, ?_⟩
  · simp [hAmended]
  · simp [hLater, hChange last hLast]
  · have hFound := found_last hNumbered hAmended missing
    rw [hId] at hFound
    rw [hFound, Row.readOut_ok (hChange last hLast)]

theorem extends_latest {base : List (Row α)} {t : Sheet α} {added : List α} {a : α}
    (h : Extends base t (added ++ [a])) : t.latest = .ok (some a) := by
  rcases extends_last h with ⟨later, last, hRows, hLater, hLast, hNumber⟩
  rw [latest_last hRows, Row.readOut_ok hLast]
  rfl

end Sheet

end Rows

end Store
end TubMonitor
