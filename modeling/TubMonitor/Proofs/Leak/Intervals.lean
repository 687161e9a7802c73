import TubMonitor.Proofs.Leak.Phases
import TubMonitor.Proofs.Leak.Scenes

/-!
# One record for each leak

As long as the store does not fail the leak loop and nobody else writes in its table, the
table holds what it held at the beginning and after that the records of the edges so far.
-/

namespace TubMonitor
namespace Monitor

open Leak (Phased Record Watch)
open Store (Row Sheet)
open Time (instantOf)

def Watched (base : List (Row Record)) (past : List Scene) (s : Monitor) : Prop :=
  exists records, Sheet.Extends base s.outside.store.recordSheet records ∧
    Phased (history past) s.now s.leak.state (s.leak.pending.map Pending.call)
      s.outside.store.recordSheet records

section

variable {base : List (Row Record)} {past : List Scene} {s : Monitor}

theorem watched_apart {h : Happening} {next : Monitor} (hWatched : Watched base past s)
    (hApart : LeakApart s h next) (hUndisturbed : (Scene.mk s h).Undisturbed .leak) :
    Watched base (past ++ [⟨s, h⟩]) next := by
  rcases hWatched with ⟨records, hExtends, hPhased⟩
  have hSheet := Store.recordSheet_only (hApart.rows hUndisturbed)
  have hSensed : (Scene.mk s h).sensed? = none := by
    simp [Scene.sensed?, Scene.reply?, hApart.event]
  refine ⟨records, ?_, ?_⟩
  · rw [hSheet]
    exact hExtends
  · rw [history_silent hSensed hApart.effects, hApart.leak, hSheet]
    exact Leak.phased_later hPhased hApart.now

theorem watched_start (hOrder : InOrder s) (hWatched : Watched base past s)
    (hFresh : s.isFresh = true) : Watched base (past ++ [⟨s, .start⟩]) s.start.2 := by
  rcases hWatched with ⟨records, hExtends, hPhased⟩
  have hDormant : s.leak.state.phase = .dormant := leak_unbegun hOrder hFresh
  have hHistory : history (past ++ [⟨s, .start⟩]) = history past := by
    rw [history_concat]
    simp [Scene.sensed?, Scene.reply?, Scene.leakEvent?, Scene.effects, hFresh, Watch.start]
  unfold Phased at hPhased
  rw [hDormant] at hPhased
  refine ⟨records, by rw [start_outside hFresh]; exact hExtends, ?_⟩
  rw [hHistory, start_outside hFresh, start_now hFresh, start_leak_state hFresh]
  exact ⟨hPhased.1, hPhased.2.1, rfl⟩

theorem watched_join (hOrder : InOrder s) (hWatched : Watched base past s)
    (hOver : s.isOver = true) : Watched base (past ++ [⟨s, .join⟩]) s.join := by
  rcases hWatched with ⟨records, hExtends, hPhased⟩
  have hHistory : history (past ++ [⟨s, .join⟩]) = history past := history_silent rfl rfl
  refine ⟨records, hExtends, ?_⟩
  rw [hHistory]
  show Phased _ s.now s.leak.state.reset _ s.outside.store.recordSheet records
  have hPhase : s.leak.state.reset.phase = s.leak.state.phase := rfl
  unfold Phased at hPhased ⊢
  rw [hPhase]
  rcases leak_over hOrder hOver with hOnly | hOnly | hOnly <;>
  · rw [hOnly] at hPhased ⊢
    exact hPhased

/-!
## Moves
-/

section Move

variable {served next : Monitor} {event : Leak.Event} {result : Watch × List Effect}

theorem leakMoves_call (hMoves : LeakMoves s event result served next) :
    next.leak.pending.map Pending.call = (callsOf result.2).getLast? := by
  rw [hMoves.leak]
  exact map_call_placed s _

theorem watched_next {records : List Record} (hMoves : LeakMoves s event result served next)
    (hExtends : Sheet.Extends base served.outside.store.recordSheet records)
    (hPhased :
      Phased (((history past).sense s.now (Scene.mk s (.turn .leak)).sensed?).say
          (notesOf result.2)) s.now result.1 (callsOf result.2).getLast?
        served.outside.store.recordSheet records) :
    Watched base (past ++ [⟨s, .turn .leak⟩]) next := by
  refine ⟨records, by rw [hMoves.outside]; exact hExtends, ?_⟩
  rw [history_concat, hMoves.effects, leakMoves_call hMoves, hMoves.leak, hMoves.now,
    hMoves.outside]
  exact hPhased

theorem sensed_reply {answer : Sensors.Answer}
    (hMoves : LeakMoves s (.reply (.sensors answer)) result served next) :
    (Scene.mk s (.turn .leak)).sensed? = some answer := by
  simp [Scene.sensed?, Scene.reply?, hMoves.scene]

theorem sensed_none (hMoves : LeakMoves s event result served next)
    (hEvent : forall answer, event ≠ .reply (.sensors answer)) :
    (Scene.mk s (.turn .leak)).sensed? = none := by
  unfold Scene.sensed? Scene.reply?
  rw [hMoves.scene]
  cases event with
  | reply reply =>
      cases reply with
      | sensors answer => exact absurd rfl (hEvent answer)
      | store answer => rfl
  | _ => rfl

theorem leak_lookup (hOrder : InOrder s)
    (hPhase : s.leak.state.phase = .loading ∨ s.leak.state.phase = .recalling) :
    s.leak.pending.map Pending.call = some (.store .latestRecord) := by
  have hExpects := hOrder.leak.expects
  generalize s.leak.pending.map Pending.call = call? at hExpects
  cases hExpects <;> simp_all

theorem leak_looked {outcome : Except Fault (Option Record)} (hOrder : InOrder s)
    (hNumbered : s.outside.store.recordSheet.Numbered)
    (hServes : LeakServes s (.reply (.store (.latestRecord outcome))) served)
    (hPhase : s.leak.state.phase = .loading ∨ s.leak.state.phase = .recalling)
    (hOk : outcome.isOk = true) :
    outcome = s.outside.store.recordSheet.latest ∧ served.outside.store = s.outside.store := by
  have hStored := leakServes_stored hServes (leak_lookup hOrder hPhase) hOk
  rw [Store.answer_latestRecord _ hNumbered] at hStored
  exact ⟨Store.Answer.latestRecord.inj hStored.1, hStored.2⟩

theorem leak_created {records : List Record} {outcome : Except Fault Record}
    (hExtends : Sheet.Extends base s.outside.store.recordSheet records)
    (hPhased : Phased (history past) s.now s.leak.state (s.leak.pending.map Pending.call)
      s.outside.store.recordSheet records)
    (hPhase : s.leak.state.phase = .recording)
    (hServes : LeakServes s (.reply (.store (.record outcome))) served)
    (hCalendar : (instantOf s.now).inCalendar = true) (hOk : outcome.isOk = true) :
    exists record, outcome = .ok record ∧
      Sheet.Extends base served.outside.store.recordSheet (records ++ [record]) ∧
      record.cleared = none ∧
      forall called, s.leak.pending.map Pending.call =
        some (.store (.createRecord (instantOf called))) -> record.detected = instantOf called := by
  unfold Phased at hPhased
  rw [hPhase] at hPhased
  rcases hPhased with ⟨_, _, moment, called, _, hCalled, hCall, _⟩
  have hStored := leakServes_stored hServes hCall hOk
  have hLegible := Time.legible_instantOf (Time.inCalendar_of_le hCalled hCalendar)
  rcases Store.answer_createRecord s.outside.store (instantOf s.now) (instantOf called) with
    ⟨row, hId, hValue, hAnswer, hSheet⟩
  refine ⟨⟨s.outside.store.recordSheet.lastId + 1, instantOf called, none⟩, ?_, ?_, rfl, ?_⟩
  · exact Store.Answer.record.inj (hStored.1.trans hAnswer)
  · rw [hStored.2, hSheet]
    exact Sheet.extends_push hExtends hId (hValue hLegible)
  · intro other hOther
    rw [hCall] at hOther
    simpa using hOther

theorem watched_recalled {records : List Record} {outcome : Except Fault (Option Record)}
    (hOrder : InOrder s) (hExtends : Sheet.Extends base s.outside.store.recordSheet records)
    (hPhased : Phased (history past) s.now s.leak.state (s.leak.pending.map Pending.call)
      s.outside.store.recordSheet records)
    (hPhase : s.leak.state.phase = .recalling)
    (hMoves : LeakMoves s (.reply (.store (.latestRecord outcome))) result served next)
    (hOk : outcome.isOk = true) : Watched base (past ++ [⟨s, .turn .leak⟩]) next := by
  rcases Leak.phased_recalling_last hPhased hPhase with ⟨earlier, record, rfl, hOpen⟩
  have hLooked := leak_looked hOrder hExtends.numbered hMoves.serves (Or.inr hPhase) hOk
  have hFound : outcome = .ok (some record) := hLooked.1.trans (Sheet.extends_latest hExtends)
  have hResult : result =
      ({ s.leak.state with phase := .closing }, [.call (.store (.clearRecord record.id))]) := by
    rw [← hMoves.step, hFound]
    simp [Watch.step, hPhase, Record.isOpen, hOpen]
  apply watched_next hMoves (by rw [hLooked.2]; exact hExtends)
  rw [sensed_none hMoves (by simp), hLooked.2, hResult]
  simp only [notesOf_call, notesOf_nil, Leak.History.sense_none, Leak.History.say_nil]
  exact Leak.phased_recalled hPhased hPhase

theorem leak_cleared {records : List Record} {outcome : Except Fault Record}
    (hExtends : Sheet.Extends base s.outside.store.recordSheet records)
    (hPhased : Phased (history past) s.now s.leak.state (s.leak.pending.map Pending.call)
      s.outside.store.recordSheet records)
    (hPhase : s.leak.state.phase = .closing)
    (hServes : LeakServes s (.reply (.store (.record outcome))) served)
    (hCalendar : (instantOf s.now).inCalendar = true) (hOk : outcome.isOk = true) :
    exists earlier record, records = earlier ++ [record] ∧
      outcome = .ok (Store.clear (instantOf s.now) record) ∧
      Sheet.Extends base served.outside.store.recordSheet
        (earlier ++ [Store.clear (instantOf s.now) record]) := by
  unfold Phased at hPhased
  rw [hPhase] at hPhased
  rcases hPhased with ⟨_, _, moment, earlier, record, _, rfl, hCall, _⟩
  have hStored := leakServes_stored hServes hCall hOk
  have hLegible := Time.legible_instantOf hCalendar
  have hAnswer := Store.answer_clearRecord (instantOf s.now) record.id hExtends.numbered
  have hAmended := Sheet.extends_amend hExtends (Store.id_cleared (instantOf s.now))
    (fun row hRow => Store.value?_cleared hLegible hRow) (Store.missingRecord record.id)
  refine ⟨earlier, record, rfl, ?_, ?_⟩
  · exact Store.Answer.record.inj (hStored.1.trans (hAnswer.1.trans (congrArg _ hAmended.2)))
  · rw [hStored.2, hAnswer.2]
    exact hAmended.1

theorem watched_move (hOrder : InOrder s) (hWatched : Watched base past s)
    (hStored : (Scene.mk s (.turn .leak)).Stored .leak)
    (hCalendar : (instantOf s.now).inCalendar = true)
    (hMoves : LeakMoves s event result served next) :
    Watched base (past ++ [⟨s, .turn .leak⟩]) next := by
  rcases hWatched with ⟨records, hExtends, hPhased⟩
  have hTold : (history past).told.level = (history past).level := told_level past
  have hOk (answer : Store.Answer) (hEvent : event = .reply (.store answer)) :
      answer.isOk = true := by
    apply hStored answer
    simp [Scene.reply?, hMoves.scene, hEvent]
  have hSensed := sensed_none hMoves
  have hSame := leakServes_unstored hMoves.serves
  have hMove := hMoves.move
  have hServes := hMoves.serves
  cases hMove with
  | loaded outcome hPhase =>
      have hLooked := leak_looked hOrder hExtends.numbered hServes (Or.inl hPhase) (hOk _ rfl)
      cases outcome with
      | error fault => cases hOk _ rfl
      | ok latest =>
          apply watched_next hMoves (by rw [hLooked.2]; exact hExtends)
          rw [hSensed (by simp), hLooked.2]
          simp only [notesOf_call, notesOf_nil, Watch.leakCall, Leak.History.sense_none,
            Leak.History.say_nil]
          exact Leak.phased_loaded latest hPhased hPhase hLooked.1.symm
  | seeded outcome hPhase =>
      apply watched_next hMoves (by rw [hSame (by simp)]; exact hExtends)
      rw [sensed_reply hMoves, hSame (by simp)]
      unfold Phased at hPhased
      rw [hPhase] at hPhased
      rcases hPhased with ⟨hSettled, hDry, hPrevious, hLatest⟩
      have hObserve := Leak.phased_observe hTold outcome hSettled (hPrevious.trans hDry.symm)
        hLatest
      rw [hDry] at hObserve
      exact hObserve
  | halted outcome hPhase =>
      apply watched_next hMoves (by rw [hSame (by simp)]; exact hExtends)
      rw [sensed_reply hMoves, hSame (by simp)]
      exact Leak.phased_halted outcome hPhased hPhase
  | recorded outcome hPhase =>
      rcases leak_created hExtends hPhased hPhase hServes hCalendar (hOk _ rfl) with
        ⟨record, rfl, hRecords, hOpen, hDetected⟩
      apply watched_next hMoves hRecords
      rw [hSensed (by simp)]
      exact Leak.phased_recorded hPhased hPhase hDetected hOpen (Sheet.extends_latest hRecords)
  | recalled hPhase hOpen =>
      exact watched_recalled hOrder hExtends hPhased hPhase hMoves (hOk _ rfl)
  | unmatched outcome hPhase =>
      exact watched_recalled hOrder hExtends hPhased hPhase hMoves (hOk _ rfl)
  | cleared record hPhase =>
      rcases leak_cleared hExtends hPhased hPhase hServes hCalendar (hOk _ rfl) with
        ⟨earlier, last, rfl, hCleared, hRecords⟩
      cases hCleared
      apply watched_next hMoves hRecords
      rw [hSensed (by simp)]
      exact Leak.phased_cleared hPhased hPhase (Sheet.extends_latest hRecords)
  | notCleared fault hPhase => cases hOk _ rfl
  | finished hPhase =>
      apply watched_next hMoves (by rw [hSame (by simp)]; exact hExtends)
      rw [hSensed (by simp), hSame (by simp)]
      unfold Phased at hPhased
      rw [hPhase] at hPhased
      simpa [Phased] using hPhased.1
  | ticked hPhase hTicker hDue =>
      apply watched_next hMoves (by rw [hSame (by simp)]; exact hExtends)
      rw [hSensed (by simp), hSame (by simp)]
      unfold Phased at hPhased
      rw [hPhase] at hPhased
      simpa [Phased, Watch.leakCall] using hPhased
  | polled present hPhase =>
      apply watched_next hMoves (by rw [hSame (by simp)]; exact hExtends)
      rw [sensed_reply hMoves, hSame (by simp)]
      unfold Phased at hPhased
      rw [hPhase] at hPhased
      rcases hPhased with ⟨hSettled, hPrevious, _, hLatest⟩
      exact Leak.phased_observe hTold (.ok present) hSettled hPrevious hLatest
  | missed fault hPhase hTicker =>
      apply watched_next hMoves (by rw [hSame (by simp)]; exact hExtends)
      rw [sensed_reply hMoves, hSame (by simp)]
      simpa using Leak.phased_missed fault hTold hPhased hPhase

end Move

end

end Monitor
end TubMonitor
