import TubMonitor.Proofs.Leak.Moves
import TubMonitor.Proofs.Leak.Readings
import TubMonitor.Proofs.Store.Requests

/-!
# What is settled and what is owed

Phase by phase, how far the leak loop has got with what its sensor has told it.  While it
waits, all edges are recorded and all has been said.  In between, the last edge is owed to
the store, and what is to be said of it is owed to the notices.
-/

namespace TubMonitor
namespace Leak

open Monitor (Call Effect Reply callsOf notesOf)
open Store (Sheet)
open Time (Instant instantOf)

structure Settled (h : History) (now : Nat) (records : List Record) : Prop where
  recorded : Recorded now h.level h.edges records
  notes : h.told.texts = h.notes
  old : h.told.isNew = false

/-- All edges but the last are recorded, and these texts are still to be said. -/
structure Owing (h : History) (up : Bool) (texts : List String) (moment : Nat)
    (records : List Record) : Prop where
  edges : exists earlier, h.edges = earlier ++ [(moment, up)] ∧
    Recorded moment (!up) earlier records
  level : h.level = up
  notes : h.told.texts = h.notes ++ texts

/-- Here `call?` is the call under way, `t` the table and `records` what it was added. -/
def Phased (h : History) (now : Nat) (w : Watch) (call? : Option Call) (t : Sheet Record)
    (records : List Record) : Prop :=
  match w.phase with
  | .dormant | .loading => Settled h now records ∧ h.level = false ∧ w.previous = false
  | .seeding =>
      Settled h now records ∧ h.level = false ∧ w.previous = false ∧ t.latest = .ok w.latest
  | .waiting | .polling =>
      Settled h now records ∧ w.previous = h.level ∧ w.present = h.level ∧
        t.latest = .ok w.latest
  | .halting =>
      w.present = true ∧ t.latest = .ok w.latest ∧
        ((w.previous = true ∧ h.level = true ∧ Settled h now records) ∨
          (w.previous = false ∧ h.told.isNew = true ∧
            exists moment, moment ≤ now ∧ Owing h true [] moment records))
  | .recording =>
      w.present = true ∧ h.told.isNew = false ∧
        exists moment called, moment ≤ called ∧ called ≤ now ∧
          call? = some (.store (.createRecord (instantOf called))) ∧
          Owing h true ["Leak detected! Pump turned off."] moment records
  | .recalling =>
      w.present = false ∧ h.told.isNew = false ∧
        exists moment, moment ≤ now ∧ Owing h false ["Leak cleared."] moment records
  | .closing =>
      w.present = false ∧ h.told.isNew = false ∧
        exists moment earlier record, moment ≤ now ∧ records = earlier ++ [record] ∧
          call? = some (.store (.clearRecord record.id)) ∧
          Owing h false ["Leak cleared."] moment records
  | .ended | .failed => Settled h now records

theorem settled_later {h : History} {now later : Nat} {records : List Record}
    (hSettled : Settled h now records) (hLater : now ≤ later) : Settled h later records :=
  ⟨recorded_later hSettled.recorded hLater, hSettled.notes, hSettled.old⟩

section

variable {h : History} {now : Nat} {w : Watch} {call? : Option Call} {t : Sheet Record}
  {records : List Record}

theorem phased_later {later : Nat} (hPhased : Phased h now w call? t records)
    (hLater : now ≤ later) : Phased h later w call? t records := by
  unfold Phased at hPhased ⊢
  cases hPhase : w.phase with
  | dormant | loading | seeding | waiting | polling =>
      rw [hPhase] at hPhased
      exact ⟨settled_later hPhased.1 hLater, hPhased.2⟩
  | ended | failed =>
      rw [hPhase] at hPhased
      exact settled_later hPhased hLater
  | halting =>
      rw [hPhase] at hPhased
      rcases hPhased with ⟨hPresent, hLatest, ⟨hOld, hWet, hSettled⟩ | ⟨hNew, hTold, moment, hMoment, hOwing⟩⟩
      · exact ⟨hPresent, hLatest, Or.inl ⟨hOld, hWet, settled_later hSettled hLater⟩⟩
      · exact ⟨hPresent, hLatest,
          Or.inr ⟨hNew, hTold, moment, hMoment.trans hLater, hOwing⟩⟩
  | recording =>
      rw [hPhase] at hPhased
      rcases hPhased with ⟨hPresent, hOld, moment, called, hMoment, hCalled, hRest⟩
      exact ⟨hPresent, hOld, moment, called, hMoment, hCalled.trans hLater, hRest⟩
  | recalling =>
      rw [hPhase] at hPhased
      rcases hPhased with ⟨hPresent, hOld, moment, hMoment, hOwing⟩
      exact ⟨hPresent, hOld, moment, hMoment.trans hLater, hOwing⟩
  | closing =>
      rw [hPhase] at hPhased
      rcases hPhased with ⟨hPresent, hOld, moment, earlier, record, hMoment, hRest⟩
      exact ⟨hPresent, hOld, moment, earlier, record, hMoment.trans hLater, hRest⟩

/-!
## Settling
-/

theorem settle_cases (w : Watch) (now : Nat) :
    (w.settle now).2 = [] ∧ (w.settle now).1.previous = w.present ∧
      (w.settle now).1.present = w.present ∧ (w.settle now).1.latest = w.latest ∧
      ((w.settle now).1.phase = .waiting ∨ (w.settle now).1.phase = .failed) := by
  simp only [Watch.settle]
  split
  · exact ⟨rfl, rfl, rfl, rfl, Or.inl rfl⟩
  · split
    · exact ⟨rfl, rfl, rfl, rfl, Or.inl rfl⟩
    · exact ⟨rfl, rfl, rfl, rfl, Or.inr rfl⟩

theorem phased_settle (moment : Nat) (hSettled : Settled h now records)
    (hPresent : w.present = h.level) (hLatest : t.latest = .ok w.latest) :
    Phased h now (w.settle moment).1 call? t records := by
  rcases settle_cases w moment with ⟨_, hPrevious, hShown, hKept, hPhase | hPhase⟩
  · unfold Phased
    rw [hPhase, hPrevious, hShown, hKept]
    exact ⟨hSettled, hPresent, hPresent, hLatest⟩
  · unfold Phased
    rw [hPhase]
    exact hSettled

/-!
## Dealing with a reading
-/

section Sensing

variable (hTold : h.told.level = h.level) (outcome : Except Fault Bool)

include hTold

theorem sense_same (moment : Nat) (hSettled : Settled h now records)
    (hSame : outcome.toOption.getD h.level = h.level) :
    (h.sense moment (some (.level outcome))).level = h.level ∧
      Settled (h.sense moment (some (.level outcome))) now records := by
  refine ⟨hSame, ?_, ?_, ?_⟩
  · simpa [History.sense, hSame] using hSettled.recorded
  · cases hLevel : h.level <;> rw [hLevel] at hSame hTold <;>
      simpa [History.sense, Told.hear, hTold, hSame] using hSettled.notes
  · cases hLevel : h.level <;> rw [hLevel] at hSame hTold <;>
      simp [History.sense, Told.hear, hTold, hSame]

theorem sense_rise (hSettled : Settled h now records) (hDry : h.level = false)
    (hWet : outcome.toOption.getD h.level = true) :
    (h.sense now (some (.level outcome))).told.isNew = true ∧
      Owing (h.sense now (some (.level outcome))) true [] now records := by
  have hRecorded := hSettled.recorded
  have hNotes := hSettled.notes
  rw [hDry] at hWet hTold hRecorded
  refine ⟨by simp [History.sense, Told.hear, hTold, hDry, hWet], ⟨h.edges, ?_, hRecorded⟩, ?_, ?_⟩
  · simp [History.sense, hDry, hWet]
  · simp [History.sense, hDry, hWet]
  · simpa [History.sense, Told.hear, hTold, hDry, hWet] using hNotes

theorem sense_fall (hSettled : Settled h now records) (hWet : h.level = true)
    (hDry : outcome.toOption.getD h.level = false) :
    (h.sense now (some (.level outcome))).told.isNew = false ∧
      Owing (h.sense now (some (.level outcome))) false ["Leak cleared."] now records := by
  have hRecorded := hSettled.recorded
  have hNotes := hSettled.notes
  rw [hWet] at hDry hTold hRecorded
  refine ⟨by simp [History.sense, Told.hear, hTold, hWet, hDry], ⟨h.edges, ?_, hRecorded⟩, ?_, ?_⟩
  · simp [History.sense, hWet, hDry]
  · simp [History.sense, hWet, hDry]
  · simp [History.sense, Told.hear, hTold, hWet, hDry, hNotes]

theorem phased_observe (hSettled : Settled h now records) (hPrevious : w.previous = h.level)
    (hLatest : t.latest = .ok w.latest) :
    let result := w.observe now (outcome.toOption.getD h.level)
    Phased ((h.sense now (some (.level outcome))).say (notesOf result.2)) now result.1
      (callsOf result.2).getLast? t records := by
  cases hLevel : outcome.toOption.getD h.level with
  | true =>
      have hNotes : notesOf (w.observe now true).2 = [] := rfl
      dsimp only
      rw [hNotes, History.say_nil]
      refine ⟨rfl, hLatest, ?_⟩
      cases hBefore : h.level with
      | true =>
          have hSame := sense_same hTold outcome now hSettled (hLevel.trans hBefore.symm)
          exact Or.inl ⟨hPrevious.trans hBefore, hSame.1.trans hBefore, hSame.2⟩
      | false =>
          have hRise := sense_rise hTold outcome hSettled hBefore hLevel
          exact Or.inr ⟨hPrevious.trans hBefore, hRise.1, now, le_rfl, hRise.2⟩
  | false =>
      have hFollow : w.observe now false = ({ w with present := false } : Watch).follow now := rfl
      cases hBefore : h.level with
      | true =>
          have hFall := sense_fall hTold outcome hSettled hBefore hLevel
          have hRecall : w.observe now false =
              ({ w with phase := .recalling, present := false },
                [.call (.store .latestRecord)]) := by
            rw [hFollow, Watch.follow, hPrevious.trans hBefore]
          simp only [hRecall, Monitor.notesOf_call, Monitor.notesOf_nil, History.say_nil]
          exact ⟨rfl, hFall.1, now, le_rfl, hFall.2⟩
      | false =>
          have hSame := sense_same hTold outcome now hSettled (hLevel.trans hBefore.symm)
          have hSettle : w.observe now false =
              ({ w with present := false } : Watch).settle now := by
            rw [hFollow, Watch.follow, hPrevious.trans hBefore]
          have hQuiet := (settle_cases { w with present := false } now).1
          simp only [hSettle, hQuiet, Monitor.notesOf_nil, History.say_nil]
          exact phased_settle now hSame.2 (hSame.1.trans hBefore).symm hLatest

end Sensing

theorem phased_missed (fault : Fault) (hTold : h.told.level = h.level)
    (hPhased : Phased h now w call? t records) (hPhase : w.phase = .polling) :
    Phased (h.sense now (some (.level (.error fault)))) now { w with phase := .waiting } none t
      records := by
  unfold Phased at hPhased
  rw [hPhase] at hPhased
  rcases hPhased with ⟨hSettled, hPrevious, hPresent, hLatest⟩
  have hSame := sense_same hTold (.error fault) now hSettled rfl
  exact ⟨hSame.2, hPrevious.trans hSame.1.symm, hPresent.trans hSame.1.symm, hLatest⟩

/-!
## Switching the pump off
-/

theorem notesOf_pumpWarning (outcome : Except Fault Unit) :
    notesOf (Watch.pumpWarning outcome) = pumpTexts outcome := by
  cases outcome <;> rfl

theorem phased_halted (outcome : Except Fault Unit) (hPhased : Phased h now w call? t records)
    (hPhase : w.phase = .halting) :
    let result := Watch.after (Watch.pumpWarning outcome) (w.follow now)
    Phased ((h.sense now (some (.switched outcome))).say (notesOf result.2)) now result.1
      (callsOf result.2).getLast? t records := by
  unfold Phased at hPhased
  rw [hPhase] at hPhased
  rcases hPhased with ⟨hPresent, hLatest, ⟨hOld, hWet, hSettled⟩ | ⟨hNew, hTold, moment, hMoment, hOwing⟩⟩
  · have hFollow : w.follow now = w.settle now := by
      rw [Watch.follow, hOld, hPresent]
    have hQuiet := (settle_cases w now).1
    have hAll : Settled ((h.sense now (some (.switched outcome))).say (pumpTexts outcome)) now
        records := by
      refine ⟨hSettled.recorded, ?_, rfl⟩
      simp [History.sense, History.say, Told.hear, hSettled.old, hSettled.notes]
    dsimp only
    rw [hFollow, Watch.after, hQuiet, List.append_nil, notesOf_pumpWarning]
    exact phased_settle now hAll (hPresent.trans hWet.symm) hLatest
  · have hFollow : w.follow now =
        ({ w with phase := .recording }, [.call (.store (.createRecord (instantOf now)))]) := by
      rw [Watch.follow, hNew, hPresent]
    dsimp only
    rw [hFollow, Watch.after]
    refine ⟨hPresent, rfl, moment, now, hMoment, le_rfl, by simp, ⟨hOwing.edges, hOwing.level, ?_⟩⟩
    have hNotes := hOwing.notes
    rw [List.append_nil] at hNotes
    simp [History.sense, History.say, Told.hear, hTold, hNotes, notesOf_pumpWarning]

/-!
## Writing down
-/

theorem phased_loaded (latest : Option Record) (hPhased : Phased h now w call? t records)
    (hPhase : w.phase = .loading) (hLatest : t.latest = .ok latest) :
    Phased h now { w with phase := .seeding, latest } (some (.sensors .leak)) t records := by
  unfold Phased at hPhased
  rw [hPhase] at hPhased
  exact ⟨hPhased.1, hPhased.2.1, hPhased.2.2, hLatest⟩

theorem phased_recorded {after : Sheet Record} {record : Record}
    (hPhased : Phased h now w call? t records) (hPhase : w.phase = .recording)
    (hCall : forall called, call? = some (.store (.createRecord (instantOf called))) ->
      record.detected = instantOf called)
    (hOpen : record.cleared = none) (hLatest : after.latest = .ok (some record)) :
    let result := Watch.after [.notify "Leak detected! Pump turned off."]
      ((w.updated (.ok record)).settle now)
    Phased (h.say (notesOf result.2)) now result.1 (callsOf result.2).getLast? after
      (records ++ [record]) := by
  unfold Phased at hPhased
  rw [hPhase] at hPhased
  rcases hPhased with ⟨hPresent, hOld, moment, called, hMoment, hCalled, hMade, hOwing⟩
  rcases hOwing.edges with ⟨earlier, hEdges, hRecorded⟩
  have hDetected := hCall called hMade
  have hQuiet := (settle_cases (w.updated (.ok record)) now).1
  have hAll : Settled (h.say ["Leak detected! Pump turned off."]) now (records ++ [record]) := by
    refine ⟨?_, hOwing.notes, hOld⟩
    show Recorded now h.level h.edges _
    rw [hOwing.level, hEdges]
    refine .opened hRecorded hOpen ?_ ?_
    · rw [hDetected]
      exact Time.instantOf_le hMoment
    · rw [hDetected]
      exact Time.instantOf_le hCalled
  dsimp only
  rw [Watch.after, hQuiet]
  exact phased_settle now hAll (hPresent.trans hOwing.level.symm) hLatest

theorem phased_recalled {earlier : List Record} {record : Record}
    (hPhased : Phased h now w call? t (earlier ++ [record])) (hPhase : w.phase = .recalling) :
    Phased h now { w with phase := .closing } (some (.store (.clearRecord record.id))) t
      (earlier ++ [record]) := by
  unfold Phased at hPhased
  rw [hPhase] at hPhased
  rcases hPhased with ⟨hPresent, hOld, moment, hMoment, hOwing⟩
  exact ⟨hPresent, hOld, moment, earlier, record, hMoment, rfl, rfl, hOwing⟩

theorem phased_recalling_last (hPhased : Phased h now w call? t records)
    (hPhase : w.phase = .recalling) :
    exists earlier record, records = earlier ++ [record] ∧ record.cleared = none := by
  unfold Phased at hPhased
  rw [hPhase] at hPhased
  rcases hPhased with ⟨_, _, moment, _, hOwing⟩
  rcases hOwing.edges with ⟨_, _, hRecorded⟩
  exact recorded_wet hRecorded

theorem phased_cleared {after : Sheet Record} {earlier : List Record} {record : Record}
    (hPhased : Phased h now w call? t (earlier ++ [record])) (hPhase : w.phase = .closing)
    (hLatest : after.latest = .ok (some (Store.clear (instantOf now) record))) :
    let result := Watch.after [.notify "Leak cleared."]
      ((w.updated (.ok (Store.clear (instantOf now) record))).settle now)
    Phased (h.say (notesOf result.2)) now result.1 (callsOf result.2).getLast? after
      (earlier ++ [Store.clear (instantOf now) record]) := by
  unfold Phased at hPhased
  rw [hPhase] at hPhased
  rcases hPhased with ⟨hPresent, hOld, moment, _, _, hMoment, _, _, hOwing⟩
  rcases hOwing.edges with ⟨before, hEdges, hRecorded⟩
  have hQuiet := (settle_cases (w.updated (.ok (Store.clear (instantOf now) record))) now).1
  have hAll : Settled (h.say ["Leak cleared."]) now
      (earlier ++ [Store.clear (instantOf now) record]) := by
    refine ⟨?_, hOwing.notes, hOld⟩
    show Recorded now h.level h.edges _
    rw [hOwing.level, hEdges]
    exact .cleared hRecorded (Time.instantOf_le hMoment) le_rfl
  dsimp only
  rw [Watch.after, hQuiet]
  exact phased_settle now hAll (hPresent.trans hOwing.level.symm) hLatest

end

end Leak
end TubMonitor
