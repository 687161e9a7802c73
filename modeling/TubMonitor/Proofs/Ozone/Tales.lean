import Mathlib.Data.List.Forall2
import TubMonitor.Proofs.Ozone.Tracking
import TubMonitor.Proofs.Store.Requests
import TubMonitor.Proofs.Time.Order

/-!
# What the rows tell of the runs

The decisions of the loop make a tale of its runs: how long each was to last and, once it
is over, why.  Phase by phase, the rows that the loop has added tell the same.
-/

namespace TubMonitor
namespace Ozone

open Monitor (cause)
open Store (begun close label)
open Time (Instant instantOf)

/-!
## Tales
-/

structure Tale where
  minutes : Nat
  /-- The status of a run that is over. -/
  ending : Option String
deriving DecidableEq, Repr

def Tale.finish (status : String) (tale : Tale) : Tale :=
  { tale with ending := some (tale.ending.getD status) }

/-- What is told after a decision.  A reply decides nothing. -/
def tell (tales : List Tale) : Event -> List Tale
  | .command (.start minutes) ticket =>
      tales.map (Tale.finish (Ending.replaced minutes ticket).status) ++ [⟨minutes, none⟩]
  | .command .stop ticket => tales.map (Tale.finish (Ending.manual ticket).status)
  | .deadline => tales.map (Tale.finish Ending.expired.status)
  | .cancel => tales.map (Tale.finish Ending.shutdown.status)
  | .reply _ => tales

/-- What is told of the run that follows, if one does. -/
def Ending.next : Ending -> List Tale
  | .replaced minutes _ => [⟨minutes, none⟩]
  | _ => []

theorem tell_cause (tales : List Tale) (ending : Ending) :
    tell tales (cause ending) = tales.map (Tale.finish ending.status) ++ ending.next := by
  cases ending <;> simp [tell, cause, Ending.next]

/-!
## Rows
-/

structure Over (tale : Tale) (entry : Entry) : Prop where
  minutes : entry.minutes = tale.minutes
  running : entry.running = false
  status : tale.ending = some entry.status
  span : exists stop, entry.stop = some stop ∧ entry.start ≤ stop

/-- All runs are over but those of which `rest` is told and which have these `rows`. -/
def Upto (tales : List Tale) (entries : List Entry) (rest : List Tale) (rows : List Entry) : Prop :=
  exists told earlier, tales = told ++ rest ∧ entries = earlier ++ rows ∧
    List.Forall₂ Over told earlier

section Upto

variable {tales rest : List Tale} {entries rows : List Entry}

theorem upto_nil : Upto [] [] [] [] :=
  ⟨[], [], rfl, rfl, List.Forall₂.nil⟩

theorem finish_over {told : List Tale} {earlier : List Entry} (status : String)
    (h : List.Forall₂ Over told earlier) : told.map (Tale.finish status) = told := by
  induction h with
  | nil => rfl
  | @cons tale entry told earlier hOver hRest ih =>
      have hSame : tale.finish status = tale := by
        rw [Tale.finish, hOver.status, Option.getD_some, ← hOver.status]
      rw [List.map_cons, hSame, ih]

theorem upto_decided {status : String} {next : List Tale} (h : Upto tales entries rest rows) :
    Upto (tales.map (Tale.finish status) ++ next) entries
      (rest.map (Tale.finish status) ++ next) rows := by
  rcases h with ⟨told, earlier, rfl, rfl, hOver⟩
  refine ⟨told, earlier, ?_, rfl, hOver⟩
  rw [List.map_append, finish_over status hOver, List.append_assoc]

theorem upto_retired {minutes : Nat} (ending : Ending)
    (h : Upto tales entries [⟨minutes, none⟩] rows) :
    Upto (tell tales (cause ending)) entries (⟨minutes, some ending.status⟩ :: ending.next) rows := by
  rw [tell_cause]
  exact upto_decided h

theorem upto_all (h : Upto tales entries [] []) : List.Forall₂ Over tales entries := by
  rcases h with ⟨told, earlier, hTold, hEntries, hOver⟩
  rw [hTold, hEntries, List.append_nil, List.append_nil]
  exact hOver

theorem upto_spared (ending : Ending) (hNext : ending.next = [])
    (h : Upto tales entries [] []) : Upto (tell tales (cause ending)) entries [] [] := by
  rw [tell_cause, hNext]
  exact upto_decided h

theorem upto_opened (minutes ticket : Nat) (h : Upto tales entries [] []) :
    Upto (tell tales (.command (.start minutes) ticket)) entries [⟨minutes, none⟩] [] :=
  upto_decided h

theorem upto_over {tale : Tale} {entry : Entry} (h : Upto tales entries (tale :: rest) [entry])
    (hOver : Over tale entry) : Upto tales entries rest [] := by
  rcases h with ⟨told, earlier, rfl, rfl, hBefore⟩
  refine ⟨told ++ [tale], earlier ++ [entry], by simp, by simp, ?_⟩
  exact List.rel_append hBefore (List.Forall₂.cons hOver List.Forall₂.nil)

end Upto

structure Shows (shown : RunState) (entry : Entry) : Prop where
  start : shown.start = some entry.start
  minutes : shown.minutes = entry.minutes
  running : shown.running = entry.running
  status : shown.status = entry.status
  stop : entry.running = false -> shown.stop = entry.stop

/-- The panel shows what the last row says, if there is one. -/
def ShowsLast (shown : RunState) (entries : List Entry) : Prop :=
  forall last, entries.getLast? = some last -> Shows shown last

def underWay (id : Int) (start : Instant) (minutes : Nat) (status : String) : Entry :=
  label status (begun id start minutes)

theorem shows_started (id : Int) (start : Instant) (minutes : Nat) (status : String) :
    Shows (RunState.started start minutes status) (underWay id start minutes status) :=
  ⟨rfl, rfl, rfl, rfl, fun hOver => by cases hOver⟩

/-- The row of a run that is over, once its end and the reason for it have been written down. -/
def finished (id : Int) (run : Run) (status : String) (ending : Ending) (stop : Instant) : Entry :=
  label ending.status (close stop (underWay id run.start run.minutes status))

theorem shows_ended (id : Int) (run : Run) (status : String) (ending : Ending)
    (stop : Instant) : Shows (run.ended ending stop) (finished id run status ending stop) :=
  ⟨rfl, rfl, rfl, rfl, fun _ => rfl⟩

theorem over_finished {id : Int} {run : Run} {status : String} {ending : Ending} {stop : Instant}
    (h : run.start ≤ stop) :
    Over ⟨run.minutes, some ending.status⟩ (finished id run status ending stop) :=
  ⟨rfl, rfl, rfl, stop, rfl, h⟩

/-!
## Phase by phase
-/

/-- While the panel is `kept`, it shows the last row wherever the loop rests. -/
def Mirrored (tales : List Tale) (kept : Prop) (now : Nat) (c : Controller)
    (entries : List Entry) : Prop :=
  match c.phase with
  | .dormant | .loading | .securing => tales = [] ∧ entries = []
  | .waiting none => Upto tales entries [] [] ∧ ShowsLast c.shown entries
  | .ended => Upto tales entries [] [] ∧ (kept -> ShowsLast c.shown entries)
  | .waiting (some run) =>
      exists id status, run.id = some id ∧ run.start ≤ instantOf now ∧
        Upto tales entries [⟨run.minutes, none⟩] [underWay id run.start run.minutes status] ∧
        c.shown = RunState.started run.start run.minutes status
  | .switchingOff run ending | .closing run ending _ _ =>
      exists id status, run.id = some id ∧ run.start ≤ instantOf now ∧
        Upto tales entries (⟨run.minutes, some ending.status⟩ :: ending.next)
          [underWay id run.start run.minutes status]
  | .labelling run ending stop =>
      exists id status, run.id = some id ∧ run.start ≤ stop ∧
        Upto tales entries (⟨run.minutes, some ending.status⟩ :: ending.next)
          [close stop (underWay id run.start run.minutes status)]
  | .recording opening =>
      (exists moment, moment ≤ now ∧ opening.start = instantOf moment) ∧
        Upto tales entries [⟨opening.minutes, none⟩] []
  | .switchingOn opening row =>
      exists id, row = some id ∧ opening.start ≤ instantOf now ∧
        Upto tales entries [⟨opening.minutes, none⟩]
          [underWay id opening.start opening.minutes runningStatus]
  | .flagging opening id _ =>
      opening.start ≤ instantOf now ∧
        Upto tales entries [⟨opening.minutes, none⟩]
          [underWay id opening.start opening.minutes runningStatus]

section Mirrored

variable {tales : List Tale} {kept : Prop} {now : Nat} {c : Controller} {entries : List Entry}

theorem mirrored_later {still : Prop} {later : Nat} (h : Mirrored tales kept now c entries)
    (hStill : still -> kept) (hLater : now ≤ later) : Mirrored tales still later c entries := by
  have hAfter : instantOf now ≤ instantOf later := Time.instantOf_le hLater
  unfold Mirrored at h ⊢
  cases hPhase : c.phase with
  | dormant | loading | securing | labelling _ _ _ =>
      rw [hPhase] at h
      exact h
  | ended =>
      rw [hPhase] at h
      exact ⟨h.1, fun hKept => h.2 (hStill hKept)⟩
  | waiting active =>
      rw [hPhase] at h
      cases active with
      | none => exact h
      | some run =>
          rcases h with ⟨id, status, hId, hStart, hRest⟩
          exact ⟨id, status, hId, hStart.trans hAfter, hRest⟩
  | switchingOff run ending | closing run ending row stop =>
      rw [hPhase] at h
      rcases h with ⟨id, status, hId, hStart, hRest⟩
      exact ⟨id, status, hId, hStart.trans hAfter, hRest⟩
  | recording opening =>
      rw [hPhase] at h
      rcases h with ⟨⟨moment, hMoment, hStart⟩, hRest⟩
      exact ⟨⟨moment, hMoment.trans hLater, hStart⟩, hRest⟩
  | switchingOn opening row =>
      rw [hPhase] at h
      rcases h with ⟨id, hId, hStart, hRest⟩
      exact ⟨id, hId, hStart.trans hAfter, hRest⟩
  | flagging opening row why =>
      rw [hPhase] at h
      exact ⟨h.1.trans hAfter, h.2⟩

theorem mirrored_retire {run : Run} (ending : Ending) (h : Mirrored tales kept now c entries)
    (hPhase : c.phase = .waiting (some run)) :
    Mirrored (tell tales (cause ending)) kept now (c.retire run ending).1 entries := by
  unfold Mirrored at h
  rw [hPhase] at h
  rcases h with ⟨id, status, hId, hStart, hUpto, _⟩
  exact ⟨id, status, hId, hStart, upto_retired ending hUpto⟩

theorem mirrored_retired {run : Run} {ending : Ending} {stop : Instant} {id : Int}
    {status : String} {earlier : List Entry} (hStart : run.start ≤ stop)
    (hUpto : Upto tales (earlier ++ [finished id run status ending stop])
      (⟨run.minutes, some ending.status⟩ :: ending.next)
      [finished id run status ending stop]) :
    Mirrored tales kept now (c.retired now run ending stop).1
      (earlier ++ [finished id run status ending stop]) := by
  have hOver := upto_over hUpto (over_finished hStart)
  have hShown : ShowsLast (run.ended ending stop)
      (earlier ++ [finished id run status ending stop]) := by
    intro last hLast
    rw [List.getLast?_concat] at hLast
    cases hLast
    exact shows_ended id run status ending stop
  cases ending with
  | manual ticket => exact ⟨hOver, hShown⟩
  | expired => exact ⟨hOver, hShown⟩
  | shutdown => exact ⟨hOver, fun _ => hShown⟩
  | replaced minutes ticket => exact ⟨⟨now, le_rfl, rfl⟩, hOver⟩

theorem mirrored_began {opening : Opening} {id : Int} {status : String}
    (hStart : opening.start ≤ instantOf now)
    (hUpto : Upto tales entries [⟨opening.minutes, none⟩]
      [underWay id opening.start opening.minutes status]) :
    Mirrored tales kept now (Controller.began now opening (some id) status).1 entries :=
  ⟨id, status, rfl, hStart, hUpto, rfl⟩

theorem mirrored_idle (h : Mirrored tales kept now c entries)
    (hRest : c.isWaiting = true ∨ c.hasEnded = true) (hNone : c.active? = none) :
    List.Forall₂ Over tales entries ∧ (kept -> ShowsLast c.shown entries) := by
  unfold Mirrored at h
  rcases hRest with hWaiting | hEnded
  · rcases Controller.isWaiting_iff.mp hWaiting with ⟨active, hPhase⟩
    have hIdle : active = none := by simpa [Controller.active?, hPhase] using hNone
    rw [hPhase, hIdle] at h
    exact ⟨upto_all h.1, fun _ => h.2⟩
  · rw [Controller.hasEnded_iff.mp hEnded] at h
    exact ⟨upto_all h.1, h.2⟩

/-- Where the loop waits with a run, its row is the last one. -/
theorem mirrored_active {run : Run} (h : Mirrored tales kept now c entries)
    (hRun : c.active? = some run) :
    exists told earlier last, tales = told ++ [⟨run.minutes, none⟩] ∧
      entries = earlier ++ [last] ∧ List.Forall₂ Over told earlier ∧ run.id = some last.id ∧
      last.minutes = run.minutes ∧ last.running = true ∧ last.stop = none ∧
      Shows c.shown last := by
  unfold Mirrored at h
  rw [Controller.active?_eq_some.mp hRun] at h
  rcases h with ⟨id, status, hId, _, ⟨told, earlier, hTold, hEntries, hOver⟩, hShown⟩
  refine ⟨told, earlier, _, hTold, hEntries, hOver, hId, rfl, rfl, rfl, ?_⟩
  rw [hShown]
  exact shows_started id run.start run.minutes status

end Mirrored

end Ozone
end TubMonitor
