import TubMonitor.Proofs.Ozone.Scenes

/-!
# What the ozone loop has decided

The last decision of the loop and the phase it is in go together, and with them what
the panel shows: a run is shown as running from the move that has begun it to the one
that has seen it to its end.
-/

namespace TubMonitor
namespace Monitor

open Time (Instant instantOf)

/-!
## Decisions

A command, a deadline and a cancellation are decisions; a reply is not.
-/

structure Decision where
  scene : Scene
  event : Ozone.Event

def Scene.decision? (scene : Scene) : Option Decision :=
  match scene.ozoneEvent? with
  | none => none
  | some (.reply _) => none
  | some event => some ⟨scene, event⟩

def lastDecision? (past : List Scene) : Option Decision :=
  (past.filterMap Scene.decision?).getLast?

def Decision.Starts (d : Decision) (minutes : Nat) : Prop :=
  exists ticket, d.event = .command (.start minutes) ticket

theorem lastDecision?_none (past : List Scene) {scene : Scene} (h : scene.decision? = none) :
    lastDecision? (past ++ [scene]) = lastDecision? past := by
  simp [lastDecision?, h]

theorem lastDecision?_some (past : List Scene) {scene : Scene} {d : Decision}
    (h : scene.decision? = some d) : lastDecision? (past ++ [scene]) = some d := by
  simp [lastDecision?, h]

theorem decision?_of_no_event {scene : Scene} (h : scene.ozoneEvent? = none) :
    scene.decision? = none := by
  simp [Scene.decision?, h]

theorem decision?_of_reply {scene : Scene} {reply : Reply}
    (h : scene.ozoneEvent? = some (.reply reply)) : scene.decision? = none := by
  simp [Scene.decision?, h]

/-!
## Rows that were opened
-/

def opening? : Nat × Call -> Option (Nat × Instant × Nat)
  | (moment, .store (.startEntry start minutes)) => some (moment, start, minutes)
  | _ => none

/-- When rows of runs were opened, and what was written in them, latest first. -/
def openings (s : Monitor) : List (Nat × Instant × Nat) :=
  s.ozoneCalls.filterMap opening?

structure Unopened (s : Monitor) (d : Decision) : Prop where
  later : d.scene.before.now ≤ s.now
  openings : s.openings = d.scene.before.openings

/-- The decision was to start, and the one row opened since is that of the run. -/
structure OpenedFor (s : Monitor) (d : Decision) (start : Instant) (minutes : Nat) : Prop where
  starts : d.Starts minutes
  opening : exists moment, d.scene.before.now ≤ moment ∧ moment ≤ s.now ∧
    start = instantOf moment ∧ s.openings = (moment, start, minutes) :: d.scene.before.openings

theorem openedFor_later {s next : Monitor} {d : Decision} {start : Instant} {minutes : Nat}
    (h : OpenedFor s d start minutes) (hNow : s.now ≤ next.now)
    (hOpenings : next.openings = s.openings) : OpenedFor next d start minutes := by
  rcases h with ⟨hStarts, moment, hFrom, hTo, hStart, hRows⟩
  exact ⟨hStarts, moment, hFrom, Nat.le_trans hTo hNow, hStart, by rw [hOpenings, hRows]⟩

theorem unopened_later {s next : Monitor} {d : Decision} (h : Unopened s d)
    (hNow : s.now ≤ next.now) (hOpenings : next.openings = s.openings) : Unopened next d :=
  ⟨Nat.le_trans h.later hNow, by rw [hOpenings, h.openings]⟩

/-!
## The invariant
-/

/-- The event for which a run ends. -/
def cause : Ozone.Ending -> Ozone.Event
  | .manual ticket => .command .stop ticket
  | .expired => .deadline
  | .replaced minutes ticket => .command (.start minutes) ticket
  | .shutdown => .cancel

/-- Phase by phase: the last decision, and what the panel shows where that is settled. -/
def Tracks (past : List Scene) (s : Monitor) : Prop :=
  match s.ozone.state.phase with
  | .dormant | .loading | .securing =>
      lastDecision? past = none ∧ s.ozone.state.shown.running = false
  | .waiting none =>
      (forall d minutes, lastDecision? past = some d -> ¬ d.Starts minutes) ∧
        s.ozone.state.shown.running = false
  | .waiting (some run) =>
      s.ozone.state.shown.running = true ∧ s.ozone.state.shown.start = some run.start ∧
        s.ozone.state.shown.minutes = run.minutes ∧
        exists d, lastDecision? past = some d ∧ OpenedFor s d run.start run.minutes
  | .switchingOff _ ending | .closing _ ending _ _ | .labelling _ ending _ =>
      exists d, lastDecision? past = some d ∧ d.event = cause ending ∧ Unopened s d
  | .recording opening | .switchingOn opening _ | .flagging opening _ _ =>
      exists d, lastDecision? past = some d ∧ OpenedFor s d opening.start opening.minutes
  | .ended => s.ozone.state.shown.running = false

theorem tracks_apart {past : List Scene} {s next : Monitor} {h : Happening}
    (hTracks : Tracks past s) (hApart : OzoneApart s h next) :
    Tracks (past ++ [⟨s, h⟩]) next := by
  have hLast := lastDecision?_none past (decision?_of_no_event hApart.event)
  have hOpenings : next.openings = s.openings := by rw [openings, hApart.calls, openings]
  unfold Tracks at hTracks ⊢
  rw [hApart.ozone, hLast]
  have hWhile : forall d, Unopened s d -> Unopened next d := fun d hUnopened =>
    unopened_later hUnopened hApart.now hOpenings
  have hSince : forall d start minutes, OpenedFor s d start minutes ->
      OpenedFor next d start minutes := fun d start minutes hOpened =>
    openedFor_later hOpened hApart.now hOpenings
  cases hPhase : s.ozone.state.phase with
  | dormant | loading | securing | ended =>
      rw [hPhase] at hTracks
      exact hTracks
  | waiting active =>
      rw [hPhase] at hTracks
      cases active with
      | none => exact hTracks
      | some run =>
          rcases hTracks with ⟨hOn, hStart, hMinutes, d, hDecision, hOpened⟩
          exact ⟨hOn, hStart, hMinutes, d, hDecision, hSince d _ _ hOpened⟩
  | switchingOff run ending | closing run ending id stop | labelling run ending stop =>
      rw [hPhase] at hTracks
      rcases hTracks with ⟨d, hDecision, hEvent, hUnopened⟩
      exact ⟨d, hDecision, hEvent, hWhile d hUnopened⟩
  | recording opening | switchingOn opening id | flagging opening id why =>
      rw [hPhase] at hTracks
      rcases hTracks with ⟨d, hDecision, hOpened⟩
      exact ⟨d, hDecision, hSince d _ _ hOpened⟩

/-!
## Moves keep the invariant
-/

section Move

variable {past : List Scene} {s served next : Monitor} {event : Ozone.Event}
  {result : Ozone.Controller × List Effect}

theorem openings_move (hMoves : OzoneMoves s event result served next) :
    next.openings = result.1.call?.toList.filterMap (fun call => opening? (s.now, call)) ++
      s.openings := by
  rw [openings, hMoves.calls, List.filterMap_append, List.filterMap_map]
  rfl

/-- A decision opens no row at once unless it is to start where nothing runs. -/
theorem unopened_now {d : Decision} (hMoves : OzoneMoves s event result served next)
    (hScene : d.scene.before = s)
    (hCall : result.1.call? = some (.sensors (.switch .ozone false))) : Unopened next d := by
  constructor
  · exact Nat.le_of_eq (by rw [hScene, hMoves.now])
  · rw [hScene, openings_move hMoves, hCall]
    rfl

theorem openedFor_now {d : Decision} {minutes : Nat}
    (hMoves : OzoneMoves s event result served next)
    (hStarts : d.Starts minutes) (hUnopened : Unopened s d)
    (hCall : result.1.call? = some (.store (.startEntry (instantOf s.now) minutes))) :
    OpenedFor next d (instantOf s.now) minutes := by
  refine ⟨hStarts, s.now, hUnopened.later, Nat.le_of_eq hMoves.now.symm, rfl, ?_⟩
  rw [openings_move hMoves, hCall, hUnopened.openings]
  rfl

theorem openings_same (hMoves : OzoneMoves s event result served next)
    (hCall : forall start minutes, result.1.call? ≠ some (.store (.startEntry start minutes))) :
    next.openings = s.openings := by
  rw [openings_move hMoves]
  cases hMade : result.1.call? with
  | none => rfl
  | some call =>
      have hNone : opening? (s.now, call) = none := by
        unfold opening?
        split
        · next start minutes hSame =>
            cases hSame
            exact absurd hMade (hCall _ _)
        · rfl
      simp [hNone]

theorem restored_running {c : Ozone.Controller} (hOff : c.shown.running = false)
    (outcome : Except Fault (Option Ozone.Entry)) :
    (c.restored outcome).running = false := by
  unfold Ozone.Controller.restored
  split
  · rfl
  · exact hOff

theorem tracks_retired {run : Ozone.Run} {ending : Ozone.Ending} {stop : Instant} {d : Decision}
    (hMoves : OzoneMoves s event result served next)
    (hResult : result.1 = (s.ozone.state.retired s.now run ending stop).1)
    (hDecision : lastDecision? (past ++ [⟨s, .turn .ozone⟩]) = some d)
    (hEvent : d.event = cause ending) (hUnopened : Unopened s d) :
    Tracks (past ++ [⟨s, .turn .ozone⟩]) next := by
  unfold Tracks
  rw [hMoves.ozone, hDecision]
  have hIdle (hStop : forall minutes, ¬ d.Starts minutes) :
      forall other minutes, some d = some other -> ¬ other.Starts minutes := by
    intro other minutes hOther
    cases hOther
    exact hStop minutes
  cases ending with
  | manual ticket =>
      dsimp only
      rw [hResult]
      refine ⟨hIdle ?_, rfl⟩
      rintro minutes ⟨ticket, hStart⟩
      rw [hStart] at hEvent
      cases hEvent
  | expired =>
      dsimp only
      rw [hResult]
      refine ⟨hIdle ?_, rfl⟩
      rintro minutes ⟨ticket, hStart⟩
      rw [hStart] at hEvent
      cases hEvent
  | shutdown =>
      dsimp only
      rw [hResult]
      rfl
  | replaced minutes ticket =>
      have hCall : result.1.call? =
          some (.store (.startEntry (instantOf s.now) minutes)) := by
        rw [hResult]
        rfl
      dsimp only
      rw [hResult]
      exact ⟨d, rfl, openedFor_now hMoves ⟨ticket, hEvent⟩ hUnopened hCall⟩

theorem tracks_began {opening : Ozone.Opening} {id : Option Int} {status : String}
    {d : Decision} (hMoves : OzoneMoves s event result served next)
    (hResult : result.1 = (Ozone.Controller.began s.now opening id status).1)
    (hDecision : lastDecision? (past ++ [⟨s, .turn .ozone⟩]) = some d)
    (hOpened : OpenedFor s d opening.start opening.minutes) :
    Tracks (past ++ [⟨s, .turn .ozone⟩]) next := by
  have hSame : next.openings = s.openings := by
    apply openings_same hMoves
    rw [hResult]
    intro start minutes hCall
    cases hCall
  have hLater := openedFor_later hOpened (Nat.le_of_eq hMoves.now.symm) hSame
  unfold Tracks
  rw [hMoves.ozone, hDecision]
  dsimp only
  rw [hResult]
  exact ⟨rfl, rfl, rfl, d, rfl, hLater⟩

theorem tracks_retire {run : Ozone.Run} {ending : Ozone.Ending}
    (hMoves : OzoneMoves s event result served next)
    (hResult : result = s.ozone.state.retire run ending) (hEvent : event = cause ending) :
    Tracks (past ++ [⟨s, .turn .ozone⟩]) next := by
  have hScene : (Scene.mk s (.turn .ozone)).decision? = some ⟨⟨s, .turn .ozone⟩, event⟩ := by
    rw [Scene.decision?, hMoves.scene, hEvent]
    cases ending <;> rfl
  have hDecision := lastDecision?_some past hScene
  subst hResult
  unfold Tracks
  rw [hMoves.ozone, hDecision]
  exact ⟨_, rfl, hEvent, unopened_now hMoves rfl rfl⟩

theorem tracks_move (hTracks : Tracks past s)
    (hMoves : OzoneMoves s event result served next) :
    Tracks (past ++ [⟨s, .turn .ozone⟩]) next := by
  have hNow := Nat.le_of_eq hMoves.now.symm
  have hSame := openings_same hMoves
  have hReply {reply : Reply} (hEvent : event = .reply reply) :
      lastDecision? (past ++ [⟨s, .turn .ozone⟩]) = lastDecision? past :=
    lastDecision?_none past (decision?_of_reply (hMoves.scene.trans (congrArg some hEvent)))
  unfold Tracks at hTracks
  have hMove := hMoves.move
  cases hMove with
  | loaded outcome hPhase =>
      rw [hPhase] at hTracks
      unfold Tracks
      rw [hMoves.ozone, hReply rfl]
      exact ⟨hTracks.1, restored_running hTracks.2 outcome⟩
  | secured outcome hPhase =>
      rw [hPhase] at hTracks
      unfold Tracks
      rw [hMoves.ozone, hReply rfl, hTracks.1]
      refine ⟨?_, hTracks.2⟩
      intro d minutes hNone
      cases hNone
  | finished hPhase =>
      rw [hPhase] at hTracks
      unfold Tracks
      rw [hMoves.ozone]
      exact hTracks.2
  | shutDown hPhase => exact tracks_retire hMoves rfl rfl
  | expired hPhase hDue => exact tracks_retire hMoves rfl rfl
  | spared ticket hPhase =>
      have hScene : (Scene.mk s (.turn .ozone)).decision? =
          some ⟨⟨s, .turn .ozone⟩, .command .stop ticket⟩ := by
        simp [Scene.decision?, hMoves.scene]
      have hDecision := lastDecision?_some past hScene
      rw [hPhase] at hTracks
      unfold Tracks
      rw [hMoves.ozone, hDecision]
      dsimp only
      rw [hPhase]
      refine ⟨?_, hTracks.2⟩
      rintro d minutes hLast ⟨other, hStart⟩
      cases hLast
      cases hStart
  | stopped ticket hPhase => exact tracks_retire hMoves rfl rfl
  | opened minutes ticket hPhase =>
      have hScene : (Scene.mk s (.turn .ozone)).decision? =
          some ⟨⟨s, .turn .ozone⟩, .command (.start minutes) ticket⟩ := by
        simp [Scene.decision?, hMoves.scene]
      have hDecision := lastDecision?_some past hScene
      have hHere : Unopened s ⟨⟨s, .turn .ozone⟩, .command (.start minutes) ticket⟩ :=
        ⟨Nat.le_refl _, rfl⟩
      unfold Tracks
      rw [hMoves.ozone, hDecision]
      exact ⟨_, rfl, openedFor_now hMoves ⟨ticket, rfl⟩ hHere rfl⟩
  | replaced minutes ticket hPhase => exact tracks_retire hMoves rfl rfl
  | switchedOff outcome hPhase hRow =>
      rw [hPhase] at hTracks
      rcases hTracks with ⟨d, hLast, hEvent, hUnopened⟩
      have hRows := hSame (fun _ _ hCall => by cases hCall)
      unfold Tracks
      rw [hMoves.ozone, hReply rfl]
      exact ⟨d, hLast, hEvent, unopened_later hUnopened hNow hRows⟩
  | unfiled outcome hPhase hRow =>
      rw [hPhase] at hTracks
      rcases hTracks with ⟨d, hLast, hEvent, hUnopened⟩
      exact tracks_retired hMoves rfl ((hReply rfl).trans hLast) hEvent hUnopened
  | closed outcome hPhase =>
      rw [hPhase] at hTracks
      rcases hTracks with ⟨d, hLast, hEvent, hUnopened⟩
      have hRows := hSame (fun start minutes hCall => by
        rcases Option.map_eq_some_iff.mp hCall with ⟨_, _, hOther⟩
        cases hOther)
      unfold Tracks
      rw [hMoves.ozone, hReply rfl]
      exact ⟨d, hLast, hEvent, unopened_later hUnopened hNow hRows⟩
  | labelled outcome hPhase =>
      rw [hPhase] at hTracks
      rcases hTracks with ⟨d, hLast, hEvent, hUnopened⟩
      exact tracks_retired hMoves rfl ((hReply rfl).trans hLast) hEvent hUnopened
  | recorded outcome hPhase =>
      rw [hPhase] at hTracks
      rcases hTracks with ⟨d, hLast, hOpened⟩
      have hRows := hSame (fun _ _ hCall => by cases hCall)
      unfold Tracks
      rw [hMoves.ozone, hReply rfl]
      exact ⟨d, hLast, openedFor_later hOpened hNow hRows⟩
  | switchedOn hPhase =>
      rw [hPhase] at hTracks
      rcases hTracks with ⟨d, hLast, hOpened⟩
      exact tracks_began hMoves rfl ((hReply rfl).trans hLast) hOpened
  | failedOn fault hPhase =>
      rw [hPhase] at hTracks
      rcases hTracks with ⟨d, hLast, hOpened⟩
      have hRows := hSame (fun _ _ hCall => by cases hCall)
      unfold Tracks
      rw [hMoves.ozone, hReply rfl]
      exact ⟨d, hLast, openedFor_later hOpened hNow hRows⟩
  | failedUnfiled fault hPhase =>
      rw [hPhase] at hTracks
      rcases hTracks with ⟨d, hLast, hOpened⟩
      exact tracks_began hMoves rfl ((hReply rfl).trans hLast) hOpened
  | flagged outcome hPhase =>
      rw [hPhase] at hTracks
      rcases hTracks with ⟨d, hLast, hOpened⟩
      exact tracks_began hMoves rfl ((hReply rfl).trans hLast) hOpened

end Move

theorem tracks_start {past : List Scene} {s : Monitor} (hOrder : InOrder s)
    (hTracks : Tracks past s) (hFresh : s.isFresh = true) :
    Tracks (past ++ [⟨s, .start⟩]) s.start.2 := by
  have hDormant := hOrder.ozone.begun.mpr (by simp_all [isFresh])
  have hOzone : s.start.2.ozone.state = Ozone.Controller.start.1 := by
    rw [start_fresh hFresh]
    dsimp only
    split <;> rfl
  unfold Tracks at hTracks ⊢
  rw [hDormant] at hTracks
  rw [hOzone, lastDecision?_none past rfl]
  exact ⟨hTracks.1, rfl⟩

theorem tracks_join {past : List Scene} {s : Monitor} (hOrder : InOrder s)
    (hTracks : Tracks past s) (hOver : s.isOver = true) :
    Tracks (past ++ [⟨s, .join⟩]) s.join := by
  unfold Tracks at hTracks ⊢
  rw [lastDecision?_none past rfl]
  cases hStarted : s.isStarted with
  | false =>
      have hDormant := hOrder.ozone.begun.mpr hStarted
      have hNext : s.join.ozone.state.phase = .dormant := hDormant
      rw [hDormant] at hTracks
      rw [hNext]
      exact ⟨hTracks.1, rfl⟩
  | true =>
      have hEnded := Ozone.Controller.hasEnded_iff.mp (s.isOver_iff.mp hOver hStarted).1
      have hNext : s.join.ozone.state.phase = .ended := hEnded
      rw [hNext]
      rfl

theorem tracks_happen {past : List Scene} {s : Monitor} (hOrder : InOrder s)
    (hTracks : Tracks past s) (h : Happening) : Tracks (past ++ [⟨s, h⟩]) (s.happen h) := by
  generalize hNext : s.happen h = next
  have hHappens : OzoneHappens s h next := hNext ▸ ozone_happens hOrder h
  cases hHappens with
  | apart hApart => exact tracks_apart hTracks hApart
  | start hFresh => exact tracks_start hOrder hTracks hFresh
  | move hMoves => exact tracks_move hTracks hMoves
  | join hCancelled hOver => exact tracks_join hOrder hTracks hOver

theorem tracks_after (config : Config) (now : Nat) (outside : Outside)
    (sink : Option Notice.Sink) (hs : List Happening) :
    Tracks ((assemble config now outside sink).scenes hs)
      ((assemble config now outside sink).after hs) := by
  induction hs using List.reverseRecOn with
  | nil => exact ⟨rfl, rfl⟩
  | append_singleton hs h ih =>
      rw [scenes_concat, after_concat]
      exact tracks_happen (inOrder_after (inOrder_assemble config now outside sink) hs) ih h

end Monitor
end TubMonitor
