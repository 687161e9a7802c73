import TubMonitor.Proofs.Ozone.Tales
import TubMonitor.Proofs.Store.Numbering
import TubMonitor.Proofs.Store.Undisturbed

/-!
# The rows of the runs

As long as the store does not fail the ozone loop and nobody else writes in its table, the
table holds what it held at the beginning and after that one row for each run.
-/

namespace TubMonitor
namespace Monitor

open Ozone (Controller Entry Mirrored Tale)
open Store (Row Sheet)
open Time (instantOf)

/-!
## Scenes
-/

def Scene.resets (scene : Scene) : Bool :=
  match scene.happening with
  | .join => scene.before.isCancelled && scene.before.isOver
  | _ => false

def Unreset (past : List Scene) : Prop :=
  forall scene, scene ∈ past -> scene.resets = false

theorem unreset_concat {past : List Scene} {scene : Scene} (h : Unreset (past ++ [scene])) :
    Unreset past :=
  fun other hMem => h other (List.mem_append_left _ hMem)

def tales (past : List Scene) : List Tale :=
  (past.filterMap Scene.decision?).foldl (fun told d => Ozone.tell told d.event) []

theorem tales_none (past : List Scene) {scene : Scene} (h : scene.decision? = none) :
    tales (past ++ [scene]) = tales past := by
  simp [tales, h]

theorem tales_some (past : List Scene) {scene : Scene} {d : Decision}
    (h : scene.decision? = some d) :
    tales (past ++ [scene]) = Ozone.tell (tales past) d.event := by
  simp [tales, h]

/-!
## Replies
-/

section Replies

variable {s served : Monitor}

theorem ozoneServes_stored {request : Store.Request} {answer : Store.Answer} (hOrder : InOrder s)
    (hServes : OzoneServes s (.reply (.store answer)) served)
    (hCall : s.ozone.state.call? = some (.store request)) (hOk : answer.isOk = true) :
    answer = (s.outside.store.answer (instantOf s.now) request).1 ∧
      served.outside.store = (s.outside.store.answer (instantOf s.now) request).2 := by
  rcases ozoneServes_reply hServes with ⟨pending, hPending, _, hReply, hServed⟩
  have hMade := hOrder.ozone.call
  rw [hPending, hCall] at hMade
  have hRequest : pending.call = .store request := Option.some.inj hMade
  rw [hRequest] at hReply hServed
  rw [hServed]
  exact answer_stored hReply.symm hOk

theorem ozoneServes_unstored {event : Ozone.Event} (hServes : OzoneServes s event served)
    (hEvent : forall answer, event ≠ .reply (.store answer)) :
    served.outside.store = s.outside.store := by
  cases hServes with
  | @reply pending hPending hDue =>
      rcases answer_store_cases s.outside s.now pending.call with
        hStore | ⟨request, _, hReply, _⟩
      · exact hStore
      · exact absurd (congrArg Ozone.Event.reply hReply) (hEvent _)
  | _ => rfl

end Replies

theorem entries_apart {s : Monitor} {h : Happening} (hOrder : InOrder s)
    (hUndisturbed : (Scene.mk s h).Undisturbed .ozone)
    (hEvent : (Scene.mk s h).ozoneEvent? = none) :
    (s.happen h).outside.store.entrySheet = s.outside.store.entrySheet := by
  apply Store.entrySheet_only
  by_cases hTurn : h = .turn .ozone
  · subst hTurn
    generalize hNext : s.happen (.turn .ozone) = next
    have hActs : Acts s (.turn .ozone) next := hNext ▸ acts s _
    cases hActs with
    | aside hAside => exact outsideAside_rows hOrder hAside.outside hUndisturbed
    | ozone hServed => simp [Scene.ozoneEvent?, hServed] at hEvent
  · exact rows_elsewhere hOrder hUndisturbed hTurn

theorem ozoneMoves_outside {s served next : Monitor} {event : Ozone.Event}
    {result : Controller × List Effect} (hMoves : OzoneMoves s event result served next) :
    next.outside = served.outside := by
  rw [hMoves.hand, handOzone_outside]

/-!
## The invariant
-/

def Mirroring (base : List (Row Entry)) (past : List Scene) (s : Monitor) : Prop :=
  exists entries, Sheet.Extends base s.outside.store.entrySheet entries ∧
    Mirrored (tales past) (Unreset past) s.now s.ozone.state entries

section

variable {base : List (Row Entry)} {past : List Scene} {s : Monitor}

theorem mirroring_apart {h : Happening} (hOrder : InOrder s) (hMirroring : Mirroring base past s)
    (hApart : OzoneApart s h (s.happen h)) (hUndisturbed : (Scene.mk s h).Undisturbed .ozone) :
    Mirroring base (past ++ [⟨s, h⟩]) (s.happen h) := by
  rcases hMirroring with ⟨entries, hExtends, hMirrored⟩
  refine ⟨entries, ?_, ?_⟩
  · rw [entries_apart hOrder hUndisturbed hApart.event]
    exact hExtends
  · rw [tales_none past (decision?_of_no_event hApart.event), hApart.ozone]
    exact Ozone.mirrored_later hMirrored unreset_concat hApart.now

theorem mirroring_start (hOrder : InOrder s) (hMirroring : Mirroring base past s)
    (hFresh : s.isFresh = true) : Mirroring base (past ++ [⟨s, .start⟩]) s.start.2 := by
  rcases hMirroring with ⟨entries, hExtends, hMirrored⟩
  unfold Mirrored at hMirrored
  rw [ozone_unbegun hOrder hFresh] at hMirrored
  refine ⟨entries, by rw [start_outside hFresh]; exact hExtends, ?_⟩
  rw [tales_none past rfl, start_ozone_state hFresh]
  exact hMirrored

theorem mirroring_join (hOrder : InOrder s) (hMirroring : Mirroring base past s)
    (hCancelled : s.isCancelled = true) (hOver : s.isOver = true) :
    Mirroring base (past ++ [⟨s, .join⟩]) s.join := by
  rcases hMirroring with ⟨entries, hExtends, hMirrored⟩
  have hReset : ¬ Unreset (past ++ [⟨s, .join⟩]) := by
    intro hUnreset
    have hLast := hUnreset _ (List.mem_append_right _ (List.mem_singleton_self _))
    simp [Scene.resets, hCancelled, hOver] at hLast
  have hPhase : s.join.ozone.state.phase = s.ozone.state.phase := rfl
  refine ⟨entries, hExtends, ?_⟩
  rw [tales_none past rfl]
  unfold Mirrored at hMirrored ⊢
  rw [hPhase]
  rcases ozone_over hOrder hOver with hOnly | hOnly
  · rw [hOnly] at hMirrored ⊢
    exact hMirrored
  · rw [hOnly] at hMirrored ⊢
    exact ⟨hMirrored.1, fun hKept => absurd hKept hReset⟩

/-!
## Moves
-/

section Move

variable {served next : Monitor} {event : Ozone.Event} {result : Controller × List Effect}

theorem tales_reply {reply : Reply} (hMoves : OzoneMoves s (.reply reply) result served next) :
    tales (past ++ [⟨s, .turn .ozone⟩]) = tales past :=
  tales_none past (decision?_of_reply hMoves.scene)

theorem tales_decided (hMoves : OzoneMoves s event result served next)
    (hEvent : forall reply, event ≠ .reply reply) :
    tales (past ++ [⟨s, .turn .ozone⟩]) = Ozone.tell (tales past) event := by
  have hDecision : (Scene.mk s (.turn .ozone)).decision? = some ⟨⟨s, .turn .ozone⟩, event⟩ := by
    rw [Scene.decision?, hMoves.scene]
    cases event with
    | reply reply => exact absurd rfl (hEvent reply)
    | _ => rfl
  exact tales_some past hDecision

theorem mirroring_next {entries : List Entry} {told : List Tale}
    (hMoves : OzoneMoves s event result served next)
    (hExtends : Sheet.Extends base served.outside.store.entrySheet entries)
    (hTold : tales (past ++ [⟨s, .turn .ozone⟩]) = told)
    (hMirrored : Mirrored told (Unreset past) s.now result.1 entries) :
    Mirroring base (past ++ [⟨s, .turn .ozone⟩]) next := by
  refine ⟨entries, by rw [ozoneMoves_outside hMoves]; exact hExtends, ?_⟩
  rw [hTold, hMoves.ozone, hMoves.now]
  exact Ozone.mirrored_later hMirrored unreset_concat le_rfl

theorem mirroring_retire {run : Ozone.Run} {ending : Ozone.Ending}
    (hMirroring : Mirroring base past s) (hMoves : OzoneMoves s event result served next)
    (hPhase : s.ozone.state.phase = .waiting (some run)) (hEvent : event = cause ending)
    (hResult : result = s.ozone.state.retire run ending) :
    Mirroring base (past ++ [⟨s, .turn .ozone⟩]) next := by
  rcases hMirroring with ⟨entries, hExtends, hMirrored⟩
  have hDecides (reply : Reply) : event ≠ .reply reply := by
    rw [hEvent]
    cases ending <;> exact Ozone.Event.noConfusion
  have hStore := ozoneServes_unstored hMoves.serves fun answer => hDecides (.store answer)
  apply mirroring_next hMoves (by rw [hStore]; exact hExtends) (tales_decided hMoves hDecides)
  rw [hResult, hEvent]
  exact Ozone.mirrored_retire ending hMirrored hPhase

theorem entry_opened {opening : Ozone.Opening} {outcome : Except Fault Entry}
    {entries : List Entry} (hOrder : InOrder s)
    (hExtends : Sheet.Extends base s.outside.store.entrySheet entries)
    (hMoves : OzoneMoves s (.reply (.store (.entry outcome))) result served next)
    (hPhase : s.ozone.state.phase = .recording opening) (hLegible : opening.start.Legible)
    (hOk : outcome.isOk = true) :
    exists id, outcome = .ok (Store.begun id opening.start opening.minutes) ∧
      Sheet.Extends base served.outside.store.entrySheet
        (entries ++ [Store.begun id opening.start opening.minutes]) := by
  have hCall : s.ozone.state.call? =
      some (.store (.startEntry opening.start opening.minutes)) := by
    simp [Controller.call?, hPhase]
  have hStored := ozoneServes_stored hOrder hMoves.serves hCall hOk
  rcases Store.answer_startEntry s.outside.store (instantOf s.now) opening.start
    opening.minutes with ⟨row, hId, hValue, hAnswer, hSheet⟩
  refine ⟨s.outside.store.entrySheet.lastId + 1, ?_, ?_⟩
  · exact Store.Answer.entry.inj (hStored.1.trans hAnswer)
  · rw [hStored.2, hSheet]
    exact Sheet.extends_push hExtends hId (hValue hLegible)

section Amended

variable {outcome : Except Fault Entry} {earlier : List Entry} {entry : Entry}
  (hOrder : InOrder s) (hOk : outcome.isOk = true)
  (hExtends : Sheet.Extends base s.outside.store.entrySheet (earlier ++ [entry]))
  (hMoves : OzoneMoves s (.reply (.store (.entry outcome))) result served next)

include hOrder hOk hExtends hMoves

theorem entry_closed (hCalendar : (instantOf s.now).inCalendar = true)
    (hCall : s.ozone.state.call? = some (.store (.stopEntry entry.id))) :
    outcome = .ok (Store.close (instantOf s.now) entry) ∧
      Sheet.Extends base served.outside.store.entrySheet
        (earlier ++ [Store.close (instantOf s.now) entry]) := by
  have hStored := ozoneServes_stored hOrder hMoves.serves hCall hOk
  have hLegible := Time.legible_instantOf hCalendar
  have hAnswer := Store.answer_stopEntry (instantOf s.now) entry.id hExtends.numbered
  have hAmended := Sheet.extends_amend hExtends (Store.id_closed (instantOf s.now))
    (fun row hRow => Store.value?_closed hLegible hRow) (Store.missingEntry entry.id)
  constructor
  · exact Store.Answer.entry.inj (hStored.1.trans (hAnswer.1.trans (congrArg _ hAmended.2)))
  · rw [hStored.2, hAnswer.2]
    exact hAmended.1

theorem entry_labelled {status : String}
    (hCall : s.ozone.state.call? = some (.store (.setStatus entry.id status))) :
    Sheet.Extends base served.outside.store.entrySheet
      (earlier ++ [Store.label status entry]) := by
  have hStored := ozoneServes_stored hOrder hMoves.serves hCall hOk
  have hAnswer := Store.answer_setStatus (instantOf s.now) entry.id status hExtends.numbered
  have hAmended := Sheet.extends_amend hExtends (Store.id_labelled status)
    (fun row hRow => Store.value?_labelled hRow) (Store.missingEntry entry.id)
  rw [hStored.2, hAnswer.2]
  exact hAmended.1

end Amended

theorem mirroring_closed {run : Ozone.Run} {ending : Ozone.Ending} {id : Int}
    {stop : Time.Instant} {outcome : Except Fault Entry} (hOrder : InOrder s)
    (hMirroring : Mirroring base past s) (hCalendar : (instantOf s.now).inCalendar = true)
    (hMoves : OzoneMoves s (.reply (.store (.entry outcome))) result served next)
    (hPhase : s.ozone.state.phase = .closing run ending id stop) (hOk : outcome.isOk = true)
    (hResult : forall entry, outcome = .ok entry ->
      result.1.phase = .labelling run ending (entry.stop.getD stop)) :
    Mirroring base (past ++ [⟨s, .turn .ozone⟩]) next := by
  rcases hMirroring with ⟨entries, hExtends, hMirrored⟩
  have hFiled := hOrder.ozone.filed
  unfold Controller.Filed at hFiled
  unfold Mirrored at hMirrored
  rw [hPhase] at hMirrored hFiled
  rcases hMirrored with ⟨row, status, hRow, hStart, told, earlier, hTold, rfl, hOver⟩
  have hSame : id = row := Option.some.inj (hFiled.symm.trans hRow)
  have hCall : s.ozone.state.call? = some (.store (.stopEntry row)) := by
    simp [Controller.call?, hPhase, hSame]
  have hClosed := entry_closed hOrder hOk hExtends hMoves hCalendar hCall
  apply mirroring_next hMoves hClosed.2 (tales_reply hMoves)
  have hNext := hResult _ hClosed.1
  unfold Mirrored
  rw [hNext]
  exact ⟨row, status, hRow, hStart, told, earlier, hTold, rfl, hOver⟩

/-- The reason for the end has been written in the row too, and the panel shows the end. -/
theorem mirroring_labelled {run : Ozone.Run} {ending : Ozone.Ending} {stop : Time.Instant}
    {outcome : Except Fault Entry} (hOrder : InOrder s) (hMirroring : Mirroring base past s)
    (hMoves : OzoneMoves s (.reply (.store (.entry outcome)))
      (s.ozone.state.retired s.now run ending stop) served next)
    (hPhase : s.ozone.state.phase = .labelling run ending stop) (hOk : outcome.isOk = true) :
    Mirroring base (past ++ [⟨s, .turn .ozone⟩]) next := by
  rcases hMirroring with ⟨entries, hExtends, hMirrored⟩
  unfold Mirrored at hMirrored
  rw [hPhase] at hMirrored
  rcases hMirrored with ⟨row, status, hRow, hStart, told, earlier, hTold, rfl, hOver⟩
  have hCall : s.ozone.state.call? = some (.store (.setStatus row ending.status)) := by
    simp [Controller.call?, hPhase, hRow]
  have hLabelled := entry_labelled hOrder hOk hExtends hMoves hCall
  apply mirroring_next hMoves hLabelled (tales_reply hMoves)
  exact Ozone.mirrored_retired hStart ⟨told, earlier, hTold, rfl, hOver⟩

/-- It has been written in the row that the generator did not come on. -/
theorem mirroring_flagged {opening : Ozone.Opening} {id : Int} {why : Fault}
    {outcome : Except Fault Entry} (hOrder : InOrder s) (hMirroring : Mirroring base past s)
    (hMoves : OzoneMoves s (.reply (.store (.entry outcome)))
      (Controller.beganWithout s.now opening (some id) why) served next)
    (hPhase : s.ozone.state.phase = .flagging opening id why) (hOk : outcome.isOk = true) :
    Mirroring base (past ++ [⟨s, .turn .ozone⟩]) next := by
  rcases hMirroring with ⟨entries, hExtends, hMirrored⟩
  unfold Mirrored at hMirrored
  rw [hPhase] at hMirrored
  rcases hMirrored with ⟨hStart, told, earlier, hTold, rfl, hOver⟩
  have hCall : s.ozone.state.call? =
      some (.store (.setStatus id (Controller.onFailureStatus why))) := by
    simp [Controller.call?, hPhase]
  have hLabelled := entry_labelled hOrder hOk hExtends hMoves hCall
  apply mirroring_next hMoves hLabelled (tales_reply hMoves)
  exact Ozone.mirrored_began hStart ⟨told, earlier, hTold, rfl, hOver⟩

theorem mirroring_recorded {opening : Ozone.Opening} {outcome : Except Fault Entry}
    (hOrder : InOrder s) (hMirroring : Mirroring base past s)
    (hCalendar : (instantOf s.now).inCalendar = true)
    (hMoves : OzoneMoves s (.reply (.store (.entry outcome))) result served next)
    (hPhase : s.ozone.state.phase = .recording opening) (hOk : outcome.isOk = true)
    (hResult : result.1.phase = .switchingOn opening (outcome.toOption.map Entry.id)) :
    Mirroring base (past ++ [⟨s, .turn .ozone⟩]) next := by
  rcases hMirroring with ⟨entries, hExtends, hMirrored⟩
  unfold Mirrored at hMirrored
  rw [hPhase] at hMirrored
  rcases hMirrored with ⟨⟨moment, hMoment, hStart⟩, told, earlier, hTold, hEarlier, hOver⟩
  have hLegible : opening.start.Legible := by
    rw [hStart]
    exact Time.legible_instantOf (Time.inCalendar_of_le hMoment hCalendar)
  rcases entry_opened hOrder hExtends hMoves hPhase hLegible hOk with ⟨id, rfl, hOpened⟩
  apply mirroring_next hMoves hOpened (tales_reply hMoves)
  unfold Mirrored
  rw [hResult]
  rw [List.append_nil] at hEarlier
  subst hEarlier
  refine ⟨id, rfl, ?_, told, entries, hTold, rfl, hOver⟩
  rw [hStart]
  exact Time.instantOf_le hMoment

theorem mirroring_move (hOrder : InOrder s) (hMirroring : Mirroring base past s)
    (hStored : (Scene.mk s (.turn .ozone)).Stored .ozone)
    (hCalendar : (instantOf s.now).inCalendar = true)
    (hMoves : OzoneMoves s event result served next) :
    Mirroring base (past ++ [⟨s, .turn .ozone⟩]) next := by
  have hOk (answer : Store.Answer) (hEvent : event = .reply (.store answer)) :
      answer.isOk = true := by
    apply hStored answer
    simp [Scene.reply?, hMoves.scene, hEvent]
  have hStore := ozoneServes_unstored hMoves.serves
  have hMove := hMoves.move
  cases hMove with
  | shutDown hPhase => exact mirroring_retire hMirroring hMoves hPhase rfl rfl
  | expired hPhase hDue => exact mirroring_retire hMirroring hMoves hPhase rfl rfl
  | stopped ticket hPhase => exact mirroring_retire hMirroring hMoves hPhase rfl rfl
  | replaced minutes ticket hPhase => exact mirroring_retire hMirroring hMoves hPhase rfl rfl
  | closed outcome hPhase =>
      apply mirroring_closed hOrder hMirroring hCalendar hMoves hPhase (hOk _ rfl)
      rintro entry rfl
      rfl
  | labelled outcome hPhase => exact mirroring_labelled hOrder hMirroring hMoves hPhase (hOk _ rfl)
  | recorded outcome hPhase =>
      exact mirroring_recorded hOrder hMirroring hCalendar hMoves hPhase (hOk _ rfl) rfl
  | flagged outcome hPhase => exact mirroring_flagged hOrder hMirroring hMoves hPhase (hOk _ rfl)
  | loaded outcome hPhase =>
      rcases hMirroring with ⟨entries, hExtends, hMirrored⟩
      have hCall : s.ozone.state.call? = some (.store .latestEntry) := by
        simp [Controller.call?, hPhase]
      have hLooked := (ozoneServes_stored hOrder hMoves.serves hCall (hOk _ rfl)).2
      rw [Store.answer_latestEntry _ hExtends.numbered] at hLooked
      unfold Mirrored at hMirrored
      rw [hPhase] at hMirrored
      exact mirroring_next hMoves (by rw [hLooked]; exact hExtends) (tales_reply hMoves) hMirrored
  | secured outcome hPhase =>
      rcases hMirroring with ⟨entries, hExtends, hMirrored⟩
      unfold Mirrored at hMirrored
      rw [hPhase] at hMirrored
      rcases hMirrored with ⟨hTold, rfl⟩
      apply mirroring_next hMoves (by rw [hStore (by simp)]; exact hExtends) (tales_reply hMoves)
      rw [hTold]
      exact ⟨Ozone.upto_nil, fun last hLast => by cases hLast⟩
  | finished hPhase =>
      rcases hMirroring with ⟨entries, hExtends, hMirrored⟩
      unfold Mirrored at hMirrored
      rw [hPhase] at hMirrored
      apply mirroring_next hMoves (by rw [hStore (by simp)]; exact hExtends)
        (tales_decided hMoves (by simp))
      exact ⟨Ozone.upto_spared .shutdown rfl hMirrored.1, fun _ => hMirrored.2⟩
  | spared ticket hPhase =>
      rcases hMirroring with ⟨entries, hExtends, hMirrored⟩
      unfold Mirrored at hMirrored
      rw [hPhase] at hMirrored
      apply mirroring_next hMoves (by rw [hStore (by simp)]; exact hExtends)
        (tales_decided hMoves (by simp))
      unfold Mirrored
      rw [hPhase]
      exact ⟨Ozone.upto_spared (.manual ticket) rfl hMirrored.1, hMirrored.2⟩
  | opened minutes ticket hPhase =>
      rcases hMirroring with ⟨entries, hExtends, hMirrored⟩
      unfold Mirrored at hMirrored
      rw [hPhase] at hMirrored
      apply mirroring_next hMoves (by rw [hStore (by simp)]; exact hExtends)
        (tales_decided hMoves (by simp))
      exact ⟨⟨s.now, le_rfl, rfl⟩, Ozone.upto_opened minutes ticket hMirrored.1⟩
  | switchedOff outcome hPhase hRow =>
      rcases hMirroring with ⟨entries, hExtends, hMirrored⟩
      unfold Mirrored at hMirrored
      rw [hPhase] at hMirrored
      exact mirroring_next hMoves (by rw [hStore (by simp)]; exact hExtends) (tales_reply hMoves)
        hMirrored
  | unfiled outcome hPhase hRow =>
      rcases hMirroring with ⟨entries, _, hMirrored⟩
      unfold Mirrored at hMirrored
      rw [hPhase] at hMirrored
      rcases hMirrored with ⟨id, _, hId, _⟩
      rw [hRow] at hId
      cases hId
  | switchedOn hPhase =>
      rcases hMirroring with ⟨entries, hExtends, hMirrored⟩
      unfold Mirrored at hMirrored
      rw [hPhase] at hMirrored
      rcases hMirrored with ⟨id, rfl, hStart, hUpto⟩
      apply mirroring_next hMoves (by rw [hStore (by simp)]; exact hExtends) (tales_reply hMoves)
      exact Ozone.mirrored_began hStart hUpto
  | failedOn fault hPhase =>
      rcases hMirroring with ⟨entries, hExtends, hMirrored⟩
      unfold Mirrored at hMirrored
      rw [hPhase] at hMirrored
      rcases hMirrored with ⟨id, hId, hStart, hUpto⟩
      cases hId
      exact mirroring_next hMoves (by rw [hStore (by simp)]; exact hExtends) (tales_reply hMoves)
        ⟨hStart, hUpto⟩
  | failedUnfiled fault hPhase =>
      rcases hMirroring with ⟨entries, _, hMirrored⟩
      unfold Mirrored at hMirrored
      rw [hPhase] at hMirrored
      rcases hMirrored with ⟨id, hId, _⟩
      cases hId

end Move

theorem mirroring_happen (hOrder : InOrder s) (hMirroring : Mirroring base past s)
    (h : Happening) (hStored : (Scene.mk s h).Stored .ozone)
    (hUndisturbed : (Scene.mk s h).Undisturbed .ozone)
    (hCalendar : (instantOf s.now).inCalendar = true) :
    Mirroring base (past ++ [⟨s, h⟩]) (s.happen h) := by
  generalize hNext : s.happen h = next
  have hHappens : OzoneHappens s h next := hNext ▸ ozone_happens hOrder h
  cases hHappens with
  | apart hApart =>
      rw [← hNext] at hApart ⊢
      exact mirroring_apart hOrder hMirroring hApart hUndisturbed
  | start hFresh => exact mirroring_start hOrder hMirroring hFresh
  | move hMoves => exact mirroring_move hOrder hMirroring hStored hCalendar hMoves
  | join hCancelled hOver => exact mirroring_join hOrder hMirroring hCancelled hOver

end

theorem mirroring_after (config : Config) (now : Nat) (outside : Outside)
    (sink : Option Notice.Sink) (hs : List Happening)
    (hNumbered : outside.store.entrySheet.Numbered)
    (hLeft : forall scene, scene ∈ (assemble config now outside sink).scenes hs ->
      scene.Stored .ozone ∧ scene.Undisturbed .ozone)
    (hCalendar : (instantOf ((assemble config now outside sink).after hs).now).inCalendar = true) :
    Mirroring outside.store.entrySheet.rows ((assemble config now outside sink).scenes hs)
      ((assemble config now outside sink).after hs) := by
  refine scenes_invariant (inOrder_assemble config now outside sink)
    (fun scene => (scene.Stored .ozone ∧ scene.Undisturbed .ozone) ∧
      (instantOf scene.before.now).inCalendar = true)
    (Mirroring outside.store.entrySheet.rows)
    ⟨[], Sheet.extends_self hNumbered, rfl, rfl⟩ ?_ hs ?_
  · intro past before h hOrder hAllowed hMirroring
    exact mirroring_happen hOrder hMirroring h hAllowed.1.1 hAllowed.1.2 hAllowed.2
  · intro scene hMem
    exact ⟨hLeft scene hMem, inCalendar_scenes hCalendar hMem⟩

end Monitor
end TubMonitor
