import TubMonitor.Proofs.Ozone.Runs

/-!
# The law of replacement

From one run to the next the panel never shows that nothing runs.  While it shows a run,
it shows the one that began last, whole and as it was when it began.
-/

namespace TubMonitor
namespace Ozone

open Controller (Move)
open Monitor (Effect)

/-!
## The run that began last
-/

/-- The run has begun, and since then no other. -/
def Latest (log : Log) (d : Debut) : Prop :=
  exists before after, log = before ++ d.lines ++ after ∧ true ∉ signs after.notes

section Latest

variable {log rest : Log} {tales told : List Tale} {prompt : Prop} {stints : List Stint}

theorem recounted_latest {d : Debut} {after : Log}
    (h : Recounted log tales prompt stints (d.lines ++ after) told)
    (hSince : true ∉ signs after.notes) : Latest log d := by
  rcases h.log with ⟨entrance, hLog⟩
  refine ⟨entrance.lines ++ stints.flatMap Stint.lines, after, ?_, hSince⟩
  rw [hLog, List.append_assoc _ d.lines]

theorem recounted_lasting {shown : RunState} (hLasting : Lasting stints shown)
    (h : Recounted log tales prompt stints rest told) (hOn : shown.running = true)
    (hSince : true ∉ signs rest.notes) : exists d, Latest log d ∧ shown = d.published := by
  rcases hLasting hOn with ⟨earlier, t, rfl, hShown⟩
  rcases h.log with ⟨entrance, hLog⟩
  refine ⟨t.debut, ⟨entrance.lines ++ earlier.flatMap Stint.lines, t.departure ++ rest, ?_, ?_⟩,
    hShown⟩
  · rw [hLog]
    simp [Stint.lines]
  · rw [signs_append, signs_departure]
    simpa using hSince

end Latest

theorem accounted_shown {log : Log} {tales : List Tale} {prompt : Prop} {now : Nat}
    {c : Controller} (h : Accounted log tales prompt now c) (hOn : c.shown.running = true) :
    exists d, Latest log d ∧ c.shown = d.published := by
  rcases c with ⟨phase, shown⟩
  cases phase with
  | dormant | loading | securing | ended => cases h.1.symm.trans hOn
  | waiting active =>
      cases active with
      | none => cases h.1.symm.trans hOn
      | some run =>
          rcases h with ⟨stints, d, hCurrent, hRecounted⟩
          rw [← List.append_nil d.lines] at hRecounted
          exact ⟨d, recounted_latest hRecounted List.not_mem_nil, hCurrent.shown⟩
  | switchingOff run ending =>
      rcases h with ⟨stints, d, decided, hCurrent, _, hRecounted⟩
      exact ⟨d, recounted_latest hRecounted List.not_mem_nil, hCurrent.shown⟩
  | closing run ending id stop =>
      rcases h with ⟨stints, d, decided, switched, went, hCurrent, _, _, hRecounted⟩
      rw [List.append_assoc, List.append_assoc] at hRecounted
      refine ⟨d, recounted_latest hRecounted ?_, hCurrent.shown⟩
      rw [signs_append, signs_append, signs_answeredOff]
      exact List.not_mem_nil
  | labelling run ending stop =>
      rcases h with
        ⟨stints, d, decided, switched, went, id, closed, answer, hCurrent, _, _, hRecounted⟩
      rw [List.append_assoc, List.append_assoc, List.append_assoc] at hRecounted
      refine ⟨d, recounted_latest hRecounted ?_, hCurrent.shown⟩
      rw [signs_append, signs_append, signs_answeredOff]
      exact List.not_mem_nil
  | recording opening =>
      rcases h with ⟨stints, asked, _, _, hLasting, hRecounted⟩
      exact recounted_lasting hLasting hRecounted hOn List.not_mem_nil
  | switchingOn opening row =>
      rcases h with ⟨stints, asked, filed, entry, _, _, hLasting, _, hRecounted⟩
      exact recounted_lasting hLasting hRecounted hOn List.not_mem_nil
  | flagging opening id why =>
      rcases h with ⟨stints, asked, filed, entry, switched, _, _, hLasting, _, hRecounted⟩
      exact recounted_lasting hLasting hRecounted hOn List.not_mem_nil

/-!
## From one run to the next
-/

/-- What is handed to the loop neither stops a run nor lets one expire. -/
def Event.Continues (event : Event) : Prop :=
  (exists reply, event = .reply reply) ∨
    exists minutes ticket, event = .command (.start minutes) ticket

/-- A run is shown, and what the loop is doing leads to a run. -/
def Lit (c : Controller) : Prop :=
  c.shown.running = true ∧
    match c.phase with
    | .waiting active => active.isSome = true
    | .switchingOff _ ending | .closing _ ending _ _ | .labelling _ ending _ =>
        exists minutes ticket, ending = .replaced minutes ticket
    | .recording _ | .switchingOn _ _ | .flagging _ _ _ => True
    | _ => False

def ending? (c : Controller) : Option Ending :=
  match c.phase with
  | .switchingOff _ ending | .closing _ ending _ _ | .labelling _ ending _ => some ending
  | _ => none

theorem lit_move {now : Nat} {c : Controller} {event : Event}
    {result : Controller × List Effect} (h : Lit c) (hMove : Move now c event result)
    (hContinues : event.Continues) : Lit result.1 := by
  rcases h with ⟨hOn, hPhased⟩
  cases hMove with
  | loaded outcome hPhase | secured outcome hPhase | finished hPhase | spared ticket hPhase
  | opened minutes ticket hPhase =>
      rw [hPhase] at hPhased
      cases hPhased
  | shutDown hPhase | expired hPhase hDue | stopped ticket hPhase =>
      rcases hContinues with ⟨reply, hEvent⟩ | ⟨minutes, ticket, hEvent⟩ <;> cases hEvent
  | replaced minutes ticket hPhase => exact ⟨hOn, minutes, ticket, rfl⟩
  | switchedOff outcome hPhase hRow | closed outcome hPhase =>
      rw [hPhase] at hPhased
      exact ⟨hOn, hPhased⟩
  | unfiled outcome hPhase hRow | labelled outcome hPhase =>
      rw [hPhase] at hPhased
      rcases hPhased with ⟨minutes, ticket, rfl⟩
      exact ⟨hOn, trivial⟩
  | recorded outcome hPhase | failedOn fault hPhase => exact ⟨hOn, trivial⟩
  | switchedOn hPhase | failedUnfiled fault hPhase | flagged outcome hPhase => exact ⟨rfl, rfl⟩

theorem retired_tickets {c : Controller} {now ticket : Nat} {run : Run} {ending : Ending}
    {stop : Time.Instant}
    (h : ticket ∈ Monitor.ticketsOf (c.retired now run ending stop).2) :
    ending = .manual ticket := by
  cases ending with
  | manual other =>
      rw [List.mem_singleton.mp h]
  | _ => cases h

theorem move_answers {now : Nat} {c : Controller} {event : Event}
    {result : Controller × List Effect} (hMove : Move now c event result) {ticket : Nat}
    (hTicket : ticket ∈ Monitor.ticketsOf result.2) :
    Lit result.1 ∨ event = .command .stop ticket ∨
      (exists reply, event = .reply reply) ∧ ending? c = some (.manual ticket) := by
  cases hMove with
  | switchedOn hPhase | failedUnfiled fault hPhase | flagged outcome hPhase =>
      exact .inl ⟨rfl, rfl⟩
  | spared other hPhase =>
      rw [List.mem_singleton.mp hTicket]
      exact .inr (.inl rfl)
  | @unfiled run ending outcome hPhase hRow =>
      rw [Monitor.ticketsOf_append, Controller.ticketsOf_offWarning, List.nil_append] at hTicket
      rw [retired_tickets hTicket] at hPhase
      exact .inr (.inr ⟨⟨_, rfl⟩, by rw [ending?, hPhase]⟩)
  | @labelled run ending stop outcome hPhase =>
      rw [retired_tickets hTicket] at hPhase
      exact .inr (.inr ⟨⟨_, rfl⟩, by rw [ending?, hPhase]⟩)
  | switchedOff outcome hPhase hRow | secured outcome hPhase =>
      simp [Controller.stopCall] at hTicket
  | _ => cases hTicket

/-- Of a run that is not replaced the panel shows, and a message says, that it is over. -/
theorem retired_darkens {c : Controller} {now : Nat} {run : Run} {ending : Ending}
    {stop : Time.Instant} (hOn : c.shown.running = true)
    (hOff : (c.retired now run ending stop).1.shown.running = false) :
    (forall minutes ticket, ending ≠ .replaced minutes ticket) ∧
      Effect.notify (stopNote ending) ∈ (c.retired now run ending stop).2 := by
  cases ending with
  | replaced minutes ticket =>
      have hSame : c.shown.running = false := hOff
      rw [hOn] at hSame
      cases hSame
  | _ => exact ⟨nofun, List.mem_cons_self⟩

/-- A panel that ceases to show a run shows one that is over and was not replaced. -/
theorem move_darkens {now : Nat} {c : Controller} {event : Event}
    {result : Controller × List Effect} (hMove : Move now c event result)
    (hLoading : c.phase ≠ .loading) (hOn : c.shown.running = true)
    (hOff : result.1.shown.running = false) :
    exists ending, ending? c = some ending ∧
      (forall minutes ticket, ending ≠ .replaced minutes ticket) ∧
      Effect.notify (stopNote ending) ∈ result.2 := by
  cases hMove with
  | loaded outcome hPhase => exact absurd hPhase hLoading
  | switchedOn hPhase | failedUnfiled fault hPhase | flagged outcome hPhase => cases hOff
  | @unfiled run ending outcome hPhase hRow =>
      rcases retired_darkens hOn hOff with ⟨hOwn, hSaid⟩
      exact ⟨ending, by rw [ending?, hPhase], hOwn, List.mem_append_right _ hSaid⟩
  | @labelled run ending stop outcome hPhase =>
      rcases retired_darkens hOn hOff with ⟨hOwn, hSaid⟩
      exact ⟨ending, by rw [ending?, hPhase], hOwn, hSaid⟩
  | _ =>
      have hSame : c.shown.running = false := hOff
      rw [hOn] at hSame
      cases hSame

end Ozone

namespace Monitor

open Ozone (Controller Latest Lit stopNote)

section Happen

variable {past : List Scene} {s : Monitor}

theorem continues_of_decision {h : Happening} {event : Ozone.Event}
    (hEvent : (Scene.mk s h).ozoneEvent? = some event)
    (hStarts : forall d, (Scene.mk s h).decision? = some d -> exists minutes, d.Starts minutes) :
    event.Continues := by
  cases event with
  | reply reply => exact .inl ⟨reply, rfl⟩
  | _ =>
      rcases hStarts _ (by rw [Scene.decision?, hEvent]) with ⟨minutes, ticket, hStart⟩
      exact .inr ⟨minutes, ticket, hStart⟩

/-- As long as nothing but starts is decided a run remains shown. -/
theorem lit_happen (hOrder : InOrder s) (hLit : Lit s.ozone.state) (h : Happening)
    (hStarts : forall d, (Scene.mk s h).decision? = some d -> exists minutes, d.Starts minutes) :
    Lit (s.happen h).ozone.state := by
  have hHappens := ozone_happens hOrder h
  generalize s.happen h = next at hHappens
  cases hHappens with
  | apart hApart =>
      rw [hApart.ozone]
      exact hLit
  | start hFresh =>
      rcases hLit with ⟨_, hPhased⟩
      rw [ozone_unbegun hOrder hFresh] at hPhased
      cases hPhased
  | move hMoves =>
      rw [hMoves.ozone]
      exact Ozone.lit_move hLit hMoves.move (continues_of_decision hMoves.scene hStarts)
  | join hCancelled hOver =>
      rcases hLit with ⟨_, hPhased⟩
      rcases ozone_over hOrder hOver with hPhase | hPhase
      all_goals
        rw [hPhase] at hPhased
        cases hPhased

theorem lit_after (hOrder : InOrder s) (hLit : Lit s.ozone.state) (rest : List Happening)
    (hStarts : forall scene d, scene ∈ s.scenes rest -> scene.decision? = some d ->
      exists minutes, d.Starts minutes) : Lit (s.after rest).ozone.state := by
  induction rest generalizing s with
  | nil => exact hLit
  | cons h rest ih =>
      have hNext := lit_happen hOrder hLit h fun d => hStarts _ d List.mem_cons_self
      exact ih (inOrder_happen hOrder h) hNext fun scene d hMem =>
        hStarts scene d (List.mem_cons_of_mem _ hMem)

theorem tracks_ending {ending : Ozone.Ending} (hTracks : Tracks past s)
    (hEnding : Ozone.ending? s.ozone.state = some ending) :
    exists d, lastDecision? past = some d ∧ d.event = cause ending := by
  unfold Ozone.ending? at hEnding
  unfold Tracks at hTracks
  cases hPhase : s.ozone.state.phase with
  | switchingOff run why | closing run why id stop | labelling run why stop =>
      rw [hPhase] at hEnding hTracks
      cases hEnding
      rcases hTracks with ⟨d, hLast, hEvent, _⟩
      exact ⟨d, hLast, hEvent⟩
  | _ =>
      rw [hPhase] at hEnding
      cases hEnding

theorem answered_lit {h : Happening} {d : Decision} {minutes ticket : Nat} (hOrder : InOrder s)
    (hTracks : Tracks past s) (hLast : lastDecision? (past ++ [⟨s, h⟩]) = some d)
    (hStart : d.event = .command (.start minutes) ticket)
    (hAnswer : ticket ∈ ticketsOf ((Scene.mk s h).effects .ozone)) :
    Lit (s.happen h).ozone.state := by
  have hHappens := ozone_happens hOrder h
  generalize hNext : s.happen h = next at hHappens
  cases hHappens with
  | apart hApart =>
      subst hNext
      rw [apart_effects hOrder hApart] at hAnswer
      cases hAnswer
  | start hFresh =>
      have hEffects : (Scene.mk s .start).effects .ozone = Controller.start.2 := by
        simp [Scene.effects, hFresh]
      rw [hEffects] at hAnswer
      cases hAnswer
  | join hCancelled hOver => cases hAnswer
  | @move event result served _ hMoves =>
      rw [move_effects hMoves] at hAnswer
      rw [hMoves.ozone]
      rcases Ozone.move_answers hMoves.move hAnswer with hLit | hStop | ⟨⟨reply, hReply⟩, hEnding⟩
      · exact hLit
      · have hScene : (Scene.mk s (.turn .ozone)).decision? = some ⟨⟨s, .turn .ozone⟩, event⟩ := by
          rw [Scene.decision?, hMoves.scene, hStop]
        rw [lastDecision?_some past hScene] at hLast
        cases hLast
        cases hStop.symm.trans hStart
      · have hScene := hMoves.scene.trans (congrArg some hReply)
        rcases tracks_ending hTracks hEnding with ⟨other, hOther, hEvent⟩
        rw [lastDecision?_none past (decision?_of_reply hScene), hOther] at hLast
        cases hLast
        cases hStart.symm.trans hEvent

theorem darkens_happen {h : Happening} (hOrder : InOrder s) (hTracks : Tracks past s)
    (hOn : s.ozone.state.shown.running = true)
    (hOff : (s.happen h).ozone.state.shown.running = false) :
    exists ending d, h = .turn .ozone ∧ lastDecision? past = some d ∧ d.event = cause ending ∧
      (forall minutes ticket, ending ≠ .replaced minutes ticket) ∧
      Effect.notify (stopNote ending) ∈ (Scene.mk s h).effects .ozone := by
  have hDark {phase : Ozone.Phase} (hPhase : s.ozone.state.phase = phase)
      (hQuiet : phase = .dormant ∨ phase = .loading ∨ phase = .ended) : False := by
    unfold Tracks at hTracks
    rcases hQuiet with rfl | rfl | rfl
    all_goals
      rw [hPhase] at hTracks
      simp [hOn] at hTracks
  have hHappens := ozone_happens hOrder h
  generalize s.happen h = next at hHappens hOff
  cases hHappens with
  | apart hApart =>
      rw [hApart.ozone, hOn] at hOff
      cases hOff
  | start hFresh => exact (hDark (ozone_unbegun hOrder hFresh) (.inl rfl)).elim
  | join hCancelled hOver =>
      rcases ozone_over hOrder hOver with hPhase | hPhase
      · exact (hDark hPhase (.inl rfl)).elim
      · exact (hDark hPhase (.inr (.inr rfl))).elim
  | move hMoves =>
      rw [hMoves.ozone] at hOff
      have hLoading : s.ozone.state.phase ≠ .loading := fun hPhase =>
        hDark hPhase (.inr (.inl rfl))
      rcases Ozone.move_darkens hMoves.move hLoading hOn hOff with ⟨ending, hEnding, hOwn, hSaid⟩
      rcases tracks_ending hTracks hEnding with ⟨d, hLast, hEvent⟩
      exact ⟨ending, d, rfl, hLast, hEvent, hOwn, (move_effects hMoves).symm ▸ hSaid⟩

end Happen

/-!
## The law
-/

/--
The law, in every state that can be reached.  If the panel shows a run, it shows the one that
began last as it was when it began.  From the answer to a start on it shows one, as long as
nothing but starts is decided.  It ceases to show one only when the end of a run that is not
replaced has been seen through.
-/
theorem no_gap_law (config : Config) (now : Nat) (outside : Outside)
    (sink : Option Notice.Sink) (hs : List Happening) :
    let initial := assemble config now outside sink
    let past := initial.scenes hs
    let s := initial.after hs
    (s.snapshot.ozone.running = true ->
      exists d, Latest (ozoneLog past) d ∧ s.snapshot.ozone = d.published) ∧
      (forall first h rest d minutes ticket, hs = first ++ h :: rest ->
        lastDecision? (initial.scenes (first ++ [h])) = some d ->
        d.event = .command (.start minutes) ticket ->
        ticket ∈ ticketsOf ((Scene.mk (initial.after first) h).effects .ozone) ->
        (forall scene later, scene ∈ (initial.after (first ++ [h])).scenes rest ->
          scene.decision? = some later -> exists minutes, later.Starts minutes) ->
        s.snapshot.ozone.running = true) ∧
      (forall h, s.snapshot.ozone.running = true ->
        (s.happen h).snapshot.ozone.running = false ->
        exists ending d, h = .turn .ozone ∧ lastDecision? past = some d ∧
          d.event = cause ending ∧ (forall minutes ticket, ending ≠ .replaced minutes ticket) ∧
          Effect.notify (stopNote ending) ∈ (Scene.mk s h).effects .ozone) := by
  intro initial past s
  have hOrder (hs : List Happening) : InOrder (initial.after hs) :=
    inOrder_after (inOrder_assemble config now outside sink) hs
  have hTracks (hs : List Happening) : Tracks (initial.scenes hs) (initial.after hs) :=
    tracks_after config now outside sink hs
  refine ⟨?_, ?_, ?_⟩
  · intro hOn
    exact Ozone.accounted_shown (accountedFor_after config now outside sink hs) hOn
  · intro first h rest d minutes ticket hSplit hLast hStart hAnswer hStarts
    rw [scenes_concat] at hLast
    have hLit := answered_lit (hOrder first) (hTracks first) hLast hStart hAnswer
    rw [← after_concat] at hLit
    have hEnd := lit_after (hOrder (first ++ [h])) hLit rest hStarts
    have hState : s = (initial.after (first ++ [h])).after rest := by
      rw [← after_append, List.append_assoc]
      exact congrArg initial.after hSplit
    rw [hState]
    exact hEnd.1
  · intro h hOn hOff
    exact darkens_happen (hOrder hs) (hTracks hs) hOn hOff

theorem starts_of_started? {d : Decision} {minutes : Nat} (h : d.started? = some minutes) :
    d.Starts minutes := by
  unfold Decision.started? at h
  split at h
  · next minutes ticket hEvent =>
      cases h
      exact ⟨ticket, hEvent⟩
  · cases h

/-- A run of five minutes has begun, and is replaced by one of seven. -/
theorem no_gap_law_twoRuns :
    twoRuns = twoRuns.take 6 ++ .turn .ozone :: twoRuns.drop 7 ∧
      (exists d, lastDecision? (simulated.scenes (twoRuns.take 7)) = some d ∧
        d.event = .command (.start 5) 0) ∧
      (simulated.after twoRuns).snapshot.ozone.running = true ∧
      exists d, Latest (ozoneLog (simulated.scenes twoRuns)) d ∧
        (simulated.after twoRuns).snapshot.ozone = d.published := by
  have hLast : exists d, lastDecision? (simulated.scenes (twoRuns.take 7)) = some d ∧
      d.event = .command (.start 5) 0 := ⟨_, rfl, rfl⟩
  have hAnswer : 0 ∈ ticketsOf
      ((Scene.mk (simulated.after (twoRuns.take 6)) (.turn .ozone)).effects .ozone) := by
    decide +kernel
  have hTested : ((simulated.after (twoRuns.take 7)).scenes (twoRuns.drop 7)).all
      (fun scene => scene.decision?.all fun d => d.started?.isSome) = true := by decide +kernel
  have hStarts : forall scene later,
      scene ∈ (simulated.after (twoRuns.take 7)).scenes (twoRuns.drop 7) ->
        scene.decision? = some later -> exists minutes, later.Starts minutes := by
    intro scene later hMem hLater
    have hStarted := List.all_eq_true.mp hTested scene hMem
    rw [hLater] at hStarted
    rcases Option.isSome_iff_exists.mp hStarted with ⟨minutes, hMinutes⟩
    exact ⟨minutes, starts_of_started? hMinutes⟩
  have hLaw := no_gap_law ⟨0, 0, 1.0, 60, ""⟩ 0 ⟨.tub .standard, .memory .empty, .fair⟩ none
    twoRuns
  rcases hLast with ⟨d, hDecision, hStart⟩
  have hOn := hLaw.2.1 (twoRuns.take 6) (.turn .ozone) (twoRuns.drop 7) d 5 0 rfl hDecision hStart
    hAnswer hStarts
  exact ⟨rfl, ⟨d, hDecision, hStart⟩, hOn, hLaw.1 hOn⟩

end Monitor
end TubMonitor
