import TubMonitor.Proofs.Mail.Law
import TubMonitor.Proofs.Ozone.Law
import TubMonitor.Proofs.Shutdown.Stillness

/-!
# The law of shutting down

Cancelling and waiting comes to an end in every state that can be reached, and not
before every loop that was started has ended.  From then on no loop does anything, no
command is left without an answer, the generator has been switched off last, and the
panel is blank.
-/

namespace TubMonitor

/-!
## The generator is switched off last
-/

namespace Ozone.Controller

/-- What the loop has last switched the generator to. -/
def switched? (c : Controller) : Option Bool :=
  match c.phase with
  | .dormant => none
  | .loading => none
  | .waiting (some _) => some true
  | .switchingOn _ _ => some true
  | .flagging _ _ _ => some true
  | _ => some false

end Ozone.Controller

namespace Monitor

def Call.ozoneSwitch? : Call -> Option Bool
  | .sensors (.switch .ozone on) => some on
  | _ => none

/-- The last of all the calls that switch the generator. -/
def lastSwitch? (s : Monitor) : Option Bool :=
  s.calls.findSome? fun entry => entry.2.ozoneSwitch?

theorem move_switched {now : Nat} {c : Ozone.Controller} {event : Ozone.Event}
    {result : Ozone.Controller × List Effect}
    (h : Ozone.Controller.Move now c event result) :
    result.1.switched? = (result.1.call?.bind Call.ozoneSwitch?).or c.switched? := by
  cases h with
  | spared ticket hPhase => simp [Ozone.Controller.call?, hPhase]
  | @unfiled run ending outcome hPhase hRow =>
      cases ending <;> simp [Ozone.Controller.switched?, hPhase] <;> rfl
  | @labelled run ending stop outcome hPhase =>
      cases ending <;> simp [Ozone.Controller.switched?, hPhase] <;> rfl
  | @closed run ending id stop outcome hPhase =>
      cases hRow : run.id <;>
        simp [Ozone.Controller.switched?, Ozone.Controller.call?, hPhase, hRow,
          Call.ozoneSwitch?]
  | _ => simp [Ozone.Controller.switched?, Ozone.Controller.retire, Ozone.Controller.began,
      Ozone.Controller.beganWithout, Ozone.Controller.begin, Ozone.Controller.call?,
      Call.ozoneSwitch?, *]

theorem lastSwitch?_eq (s : Monitor) :
    s.lastSwitch? = s.ozoneCalls.findSome? fun entry => entry.2.ozoneSwitch? := by
  unfold lastSwitch? ozoneCalls
  induction s.calls with
  | nil => rfl
  | cons entry rest ih =>
      cases hOwn : entry.2.isOzone with
      | true => simp [hOwn, List.findSome?_cons, ih]
      | false =>
          have hNone : entry.2.ozoneSwitch? = none := by
            unfold Call.isOzone at hOwn
            unfold Call.ozoneSwitch?
            split at hOwn <;> simp_all
          simp [hOwn, hNone, ih]

theorem switched_happen {s : Monitor} (hOrder : InOrder s)
    (hSwitched : s.lastSwitch? = s.ozone.state.switched?) (h : Happening) :
    (s.happen h).lastSwitch? = (s.happen h).ozone.state.switched? := by
  have hHappens := ozone_happens hOrder h
  generalize hNext : s.happen h = next at hHappens
  cases hHappens with
  | apart hApart =>
      rw [lastSwitch?_eq, hApart.calls, ← lastSwitch?_eq, hApart.ozone]
      exact hSwitched
  | start hFresh =>
      have hDormant := hOrder.ozone.begun.mpr (by simp_all [isFresh])
      have hNone : s.lastSwitch? = none := by
        rw [hSwitched, Ozone.Controller.switched?, hDormant]
      rw [start_fresh hFresh]
      dsimp only
      split
      · exact hNone
      · exact hNone
  | @move event result served next hMoves =>
      rw [lastSwitch?_eq, hMoves.calls, hMoves.ozone, move_switched hMoves.move, ← hSwitched,
        lastSwitch?_eq, List.findSome?_append]
      cases result.1.call? <;> simp
  | join hCancelled hOver => exact hSwitched

theorem switched_after (config : Config) (now : Nat) (outside : Outside)
    (sink : Option Notice.Sink) (hs : List Happening) :
    let s := (assemble config now outside sink).after hs
    s.lastSwitch? = s.ozone.state.switched? := by
  have hBoth := after_invariant
    (fun next => InOrder next ∧ next.lastSwitch? = next.ozone.state.switched?)
    ⟨inOrder_assemble config now outside sink, rfl⟩
    (fun _ h hBefore => ⟨inOrder_happen hBefore.1 h, switched_happen hBefore.1 hBefore.2 h⟩) hs
  exact hBoth.2

/-!
## Every command has been answered
-/

/-- A loop that has been waited for has taken all the commands it ever takes. -/
theorem taken_shut {s : Monitor} (hShut : Shut s) (later : List Happening) :
    ozoneTaken (s.scenes later) = [] ∧ targetTaken (s.scenes later) = [] := by
  have hNone : forall scene, scene ∈ s.scenes later ->
      scene.ozoneLetters = [] ∧ scene.targetLetters = [] := by
    intro scene hScene
    have hIdle := (shut_scenes hShut hScene).idle
    have hOzone := hIdle .ozone
    have hTemperature := hIdle .temperature
    simp only [LoopName.turn, turn?, ozoneTurn?, temperatureTurn?, Option.map_eq_none_iff]
      at hOzone hTemperature
    constructor
    · apply ozoneLetters_none
      unfold Scene.ozoneEvent?
      split
      · rw [hOzone]
        rfl
      · rfl
    · apply targetLetters_none
      unfold Scene.temperatureEvent?
      split
      · rw [hTemperature]
        rfl
      · rfl
  constructor
  · exact List.flatMap_eq_nil_iff.mpr fun scene hScene => (hNone scene hScene).1
  · exact List.flatMap_eq_nil_iff.mpr fun scene hScene => (hNone scene hScene).2

theorem not_awaited {s : Monitor} (hShut : Shut s) (order : Console.Order) :
    ¬ s.IsAwaited order := by
  have hOver := (isOver_iff s).mp hShut.isOver
  have hNot (hasEnded : Bool) (hEnded : s.isStarted = true -> hasEnded = true) :
      ¬ s.GoesOn hasEnded := by
    rintro (hFresh | ⟨hStarted, hRunning⟩)
    · simp [isFresh, hShut.isCancelled] at hFresh
    · rw [hEnded hStarted] at hRunning
      cases hRunning
  cases order with
  | ozone command => exact hNot _ fun hStarted => (hOver hStarted).1
  | target command => exact hNot _ fun hStarted => (hOver hStarted).2.2.1

theorem send_shut {s : Monitor} (hShut : Shut s) (hDoors : Doors s) {order : Console.Order}
    (hAdmissible : Admissible s.config order) : s.send order = (.error .monitorStopped, s) := by
  rcases send_admissible hAdmissible with hStopped | hTicket
  · exact hStopped
  · rcases hSend : s.send order with ⟨outcome, next⟩
    rw [hSend] at hTicket
    cases hTicket
    have hNot := not_awaited hShut order
    rcases (send_ok hSend).2 with ⟨_, _, rfl, _, hBox, _⟩ | ⟨_, _, rfl, _, hBox, _⟩
    · exact absurd (hDoors.ozone.mp (Mailbox.isOpen_send hBox).1) hNot
    · exact absurd (hDoors.target.mp (Mailbox.isOpen_send hBox).1) hNot

/-- What has been applied by the time the loops have been waited for is all there is. -/
theorem applied_since {before : List Scene} {s : Monitor} (hShut : Shut s.join)
    (later : List Happening) (scene : Scene) (order : Console.Order) :
    Applied (before ++ ⟨s, .join⟩ :: s.join.scenes later) scene order ↔
      Applied before scene order := by
  have hTaken := taken_shut hShut later
  have hOzone : ozoneTaken (before ++ ⟨s, .join⟩ :: s.join.scenes later) =
      ozoneTaken before := by
    rw [ozoneTaken, List.flatMap_append, List.flatMap_cons, ← ozoneTaken, ← ozoneTaken, hTaken.1]
    exact List.append_nil _
  have hTarget : targetTaken (before ++ ⟨s, .join⟩ :: s.join.scenes later) =
      targetTaken before := by
    rw [targetTaken, List.flatMap_append, List.flatMap_cons, ← targetTaken, ← targetTaken,
      hTaken.2]
    exact List.append_nil _
  unfold Applied
  rw [hOzone, hTarget]

/-!
## The law
-/

/--
A monitor whose loops have been waited for; `before` is what had happened by then, and
`past` all that has happened since as well.
-/
structure Concluded (config : Config) (before past : List Scene) (s : Monitor) : Prop where
  ended : s.running = []
  exited : s.isStarted = true -> s.exited = loopNames
  blank : s.snapshot = Snapshot.blank
  off : s.isStarted = true -> s.lastSwitch? = some false
  answered : forall scene order, scene ∈ past -> scene.order? = some order ->
    Admissible config order ->
      (Applied before scene order ∧ s.answer? scene order = some (.ok ())) ∨
        (¬ Applied before scene order ∧ s.answer? scene order = some (.error .monitorStopped))
  invalid : forall scene order, scene ∈ past -> scene.order? = some order ->
    ¬ Admissible config order ->
      exists text, s.answer? scene order = some (.error (.invalidCommand text))
  sends : forall order, Admissible config order -> s.send order = (.error .monitorStopped, s)
  starts : s.start = (.error .alreadyStarted, s)
  cancels : s.cancel = s
  joins : s.join = s
  waits : s.isQuiet = true -> s.cancelAndWait = s

theorem concluded_of_shut {before past : List Scene} {s : Monitor} (hShut : Shut s)
    (hDoors : Doors s) (hRendezvous : Rendezvous past s)
    (hSwitched : s.lastSwitch? = s.ozone.state.switched?)
    (hConfig : forall scene, scene ∈ past -> scene.before.config = s.config)
    (hApplied : forall scene order, Applied past scene order ↔ Applied before scene order) :
    Concluded s.config before past s where
  ended := List.isEmpty_iff.mp hShut.isOver
  exited := by
    intro hStarted
    simp [exited, hStarted, hShut.isJoined]
  blank := shut_blank hShut
  off := by
    intro hStarted
    have hEnded := ((isOver_iff s).mp hShut.isOver hStarted).1
    rw [hSwitched, Ozone.Controller.switched?, Ozone.Controller.hasEnded_iff.mp hEnded]
  answered := by
    intro scene order hScene hSent hAdmissible
    rw [← hConfig scene hScene] at hAdmissible
    have hTruthful := answer_truthful hShut.order hDoors hRendezvous hScene hSent hAdmissible
    rcases hAnswer : s.answer? scene order with _ | told
    · exact absurd (hTruthful.untold hAnswer) (not_awaited hShut order)
    · have hTold := hTruthful.told told hAnswer
      rw [hApplied] at hTold
      by_cases hDone : Applied before scene order
      · exact Or.inl ⟨hDone, by rw [hTold.1.mpr hDone]⟩
      · exact Or.inr ⟨hDone, by rw [hTold.2.mpr hDone]⟩
  invalid := by
    intro scene order hScene hSent hBad
    rw [← hConfig scene hScene] at hBad
    exact (answer_invalid hShut.order hDoors hRendezvous hScene hSent).mpr hBad
  sends := fun order hAdmissible => send_shut hShut hDoors hAdmissible
  starts := start_cancelled hShut.isCancelled
  cancels := cancel_again hShut.isCancelled
  joins := join_again hShut
  waits := wait_again hShut

/--
The law, in every state that can be reached: the wait comes to an end, which is when every
loop has ended; once cancelled no loop begins anything; and whatever happens after a wait,
no loop has a part in it.
-/
theorem shutdown_law (config : Config) (now : Nat) (outside : Outside)
    (sink : Option Notice.Sink) (hs : List Happening) :
    let origin := assemble config now outside sink
    let s := origin.after hs
    (exists between, (forall h, h ∈ between -> h.isPassing = true) ∧
      (origin.after (hs ++ .cancel :: between)).isOver = true ∧
      s.cancelAndWait = (origin.after (hs ++ .cancel :: between)).happen .join) ∧
    (s.isCancelled = true ->
      forall later scene, scene ∈ s.scenes later -> scene.begins = false) ∧
    (s.isCancelled = true -> s.isOver = true ->
      forall later,
        (forall scene, scene ∈ s.join.scenes later ->
          Uneventful scene.before scene.happening scene.after) ∧
        Concluded config (origin.scenes hs) (origin.scenes (hs ++ .join :: later))
          (origin.after (hs ++ .join :: later))) := by
  intro origin s
  have hFirst : InOrder origin := inOrder_assemble config now outside sink
  have hOrder : InOrder s := inOrder_after hFirst hs
  refine ⟨?_, ?_, ?_⟩
  · rcases cancelAndWait_joins hOrder with ⟨waited, ⟨between, hPassing, rfl⟩, hOver, hWait⟩
    have hReached : origin.after (hs ++ .cancel :: between) = s.cancel.after between :=
      after_append origin hs (.cancel :: between)
    have hCancelled : (s.cancel.after between).isCancelled = true :=
      after_invariant (fun next => next.isCancelled = true) (cancel_isCancelled s)
        (fun _ h hBefore => isCancelled_happen hBefore h) between
    refine ⟨between, hPassing, ?_, ?_⟩
    · rw [hReached, hOver]
    · rw [hReached, hWait, happen, hCancelled, hOver]
      rfl
  · intro hCancelled later scene hScene
    exact begins_after_cancel hCancelled hScene
  · intro hCancelled hOver later
    have hJoin : s.happen .join = s.join := by simp [happen, hCancelled, hOver]
    have hJoined := shut_join hOrder hCancelled hOver
    have hReached : origin.after (hs ++ .join :: later) = s.join.after later := by
      rw [after_append, after_cons, hJoin]
    have hPast : origin.scenes (hs ++ .join :: later) =
        origin.scenes hs ++ ⟨s, .join⟩ :: s.join.scenes later := by
      rw [scenes_append, scenes_cons, hJoin]
    have hConfig : (origin.after (hs ++ .join :: later)).config = config := config_after origin _
    have hConfigs : forall scene, scene ∈ origin.scenes (hs ++ .join :: later) ->
        scene.before.config = (origin.after (hs ++ .join :: later)).config := by
      intro scene hScene
      rcases mem_scenes hScene with ⟨first, _, _, hBefore⟩
      rw [hBefore, config_after, config_after]
    have hApplied : forall scene order,
        Applied (origin.scenes (hs ++ .join :: later)) scene order ↔
          Applied (origin.scenes hs) scene order := by
      intro scene order
      rw [hPast]
      exact applied_since hJoined later scene order
    have hConcluded := concluded_of_shut (hReached ▸ shut_after hJoined later)
      (doors_after hFirst (doors_assemble config now outside sink) _)
      (rendezvous_after config now outside sink (hs ++ .join :: later))
      (switched_after config now outside sink (hs ++ .join :: later)) hConfigs hApplied
    rw [hConfig] at hConcluded
    exact ⟨fun scene hScene => shut_scenes hJoined hScene, hConcluded⟩

def shortSession : List Happening :=
  [ .start, .cancel, .turn .ozone, .turn .ozone, .turn .ozone, .turn .leak, .turn .leak
  , .turn .notices ]

theorem shutdown_law_shortSession :
    (simulated.after shortSession).isCancelled = true ∧
      (simulated.after shortSession).isOver = true ∧
      (simulated.after (shortSession ++ [.join])).snapshot = Snapshot.blank ∧
      (simulated.after (shortSession ++ [.join])).lastSwitch? = some false := by
  have hCancelled : (simulated.after shortSession).isCancelled = true := by decide
  have hOver : (simulated.after shortSession).isOver = true := by decide
  have hStarted : (simulated.after (shortSession ++ [.join])).isStarted = true := by decide
  have hConcluded := ((shutdown_law ⟨0, 0, 1.0, 60, ""⟩ 0
    ⟨.tub .standard, .memory .empty, .fair⟩ none shortSession).2.2 hCancelled hOver []).2
  exact ⟨hCancelled, hOver, hConcluded.blank, hConcluded.off hStarted⟩

/-- A command that cannot be carried out is refused as such even then. -/
theorem refused_after_shutdown :
    (simulated.after shortSession).isCancelled = true ∧
      (simulated.after shortSession).isOver = true ∧
      ¬ forall order,
        ((simulated.after shortSession).join.send order).1 = .error .monitorStopped := by
  have hCancelled : (simulated.after shortSession).isCancelled = true := by decide
  have hOver : (simulated.after shortSession).isOver = true := by decide
  refine ⟨hCancelled, hOver, ?_⟩
  intro hAlways
  have hRefused := hAlways (.ozone (.start 0))
  have hBad : ¬ Admissible (simulated.after shortSession).join.config (.ozone (.start 0)) := by
    rintro ⟨hLeast, _⟩
    cases hLeast
  rcases send_inadmissible hBad with ⟨text, hSend⟩
  rw [hSend] at hRefused
  cases hRefused

end Monitor
end TubMonitor
