import TubMonitor.Proofs.Console.Progress
import TubMonitor.Proofs.Passing

/-!
# The law of the console

Whatever state the monitor is in when it is given lines, and whatever its calls meet with,
the console serves the lines one by one up to the first that quits.
-/

namespace TubMonitor
namespace Monitor

open Console (Command SoundsWrong replyText)

/-- The line is before the first that quits; it has a reply unless it is blank, and a reply sounds
like an error if and only if it is one. -/
structure Round.Proper (round : Round) : Prop where
  goesOn : Command.read round.line ≠ .ok .quit
  silent : round.reply = none ↔ Text.isBlankLine round.line.toList = true
  sounds : forall reply, round.reply = some reply ->
    (SoundsWrong (replyText reply) ↔ exists text, reply = .error text)

theorem served_proper {past : List Scene} {s : Monitor} {round : Round}
    (h : Served past s round) : round.Proper where
  goesOn := served_not_quit h
  silent := served_silent h
  sounds := fun _ hReply => served_wrong_iff h hReply

/-- The first line that quits has been taken, which is all, and every line before it is done
with. -/
def Adjourned (past since : List Scene) (given : List String) (s : Monitor) : Prop :=
  exists rounds line rest turn,
    Conversation past since given s rounds ⟨⟨rest, .finished⟩, none⟩ (some line) [turn] ∧
      (forall round, round ∈ rounds -> round.Proper) ∧
        given = rounds.map Round.line ++ line :: rest ∧ Command.read line = .ok .quit ∧
          turn.consoleEffects = []

theorem adjourned_of_finished {past since : List Scene} {given rest : List String}
    {s : Monitor} (hTalk : Conversed past since given s)
    (h : s.console = some ⟨⟨rest, .finished⟩, none⟩) : Adjourned past since given s := by
  rcases hTalk with ⟨rounds, worker, line, begun, hTalk⟩
  have hOccupied := hTalk.occupied
  have hLines := hTalk.lines
  have hProper : forall round, round ∈ rounds -> round.Proper :=
    fun round hRound => served_proper (hTalk.served round hRound)
  cases hTalk.console.symm.trans h
  cases hOccupied with
  | finished hRead hDoes => exact ⟨rounds, _, rest, _, hTalk, hProper, hLines, hRead, hDoes⟩

theorem keeps_along {course : Nat -> Happening} (hKeeps : forall n, (course n).keepsConsole = true)
    (n : Nat) : forall h, h ∈ (List.range n).map course -> h.keepsConsole = true := by
  intro h hMem
  rcases List.mem_map.mp hMem with ⟨k, _, rfl⟩
  exact hKeeps k

/-- When the monitor serves lines by itself, that is one of the courses of events. -/
theorem converse_keeps (s : Monitor) (given : List String) :
    exists later, (forall h, h ∈ later -> h.keepsConsole = true) ∧
      s.converse given =
        (((s.happen (.converse given)).after later).printed.reverse,
          { (s.happen (.converse given)).after later with console := none, printed := [] }) := by
  have hPasses := run_passes consoleIsDone
    ((s.happen (.converse given)).horizon (callsPerEvent *
      (s.ozoneBox.pending.length + s.targetBox.pending.length + given.length + 2) *
        (given.length + 1)))
    s.now (s.happen (.converse given)) (Nat.le_refl _)
  rcases hPasses with ⟨later, hPassing, hServed⟩
  refine ⟨later, fun h hMem => ?_, ?_⟩
  · have hTurn := hPassing h hMem
    cases h <;> first | rfl | cases hTurn
  · rw [← hServed]
    rfl

theorem talk_of_fair (config : Config) (now : Nat) (outside : Outside)
    (sink : Option Notice.Sink) (hs : List Happening) (given : List String)
    {course : Nat -> Happening}
    (hStale : ((assemble config now outside sink).after hs).isFresh = false)
    (hFair : Fair course) (hKeeps : forall n, (course n).keepsConsole = true) :
    let s := (assemble config now outside sink).after hs
    Talk ((assemble config now outside sink).scenes (hs ++ [.converse given])) given
      (s.happen (.converse given)) course := by
  intro s
  have hSplit (n : Nat) : hs ++ .converse given :: (List.range n).map course =
      (hs ++ [.converse given]) ++ (List.range n).map course := by simp
  have hScenes (n : Nat) :
      (assemble config now outside sink).scenes
          (hs ++ .converse given :: (List.range n).map course) =
        (assemble config now outside sink).scenes (hs ++ [.converse given]) ++
          (s.happen (.converse given)).scenes ((List.range n).map course) := by
    rw [hSplit, scenes_append, after_concat]
  refine ⟨?_, ?_, ?_, hKeeps, hFair⟩
  · intro n
    have hMail := mailInOrder_after config now outside sink
      (hs ++ .converse given :: (List.range n).map course)
    rw [hScenes, after_append] at hMail
    exact hMail
  · intro n
    have hTalk := conversed_after config now outside sink hs given (keeps_along hKeeps n)
    rw [hScenes] at hTalk
    exact hTalk
  · exact stale_along (stale_happen hStale _) course

/--
The law, whenever lines are given to the console: each of them is served in its turn, and all
that the console does, it does for one of them; what it does ends no loop and does not stop the
monitor.  If the loops have been started, or given up, and one of the lines quits, the console
comes to the first that does, and goes no further.
-/
theorem console_law (config : Config) (now : Nat) (outside : Outside)
    (sink : Option Notice.Sink) (hs : List Happening) (given : List String) :
    let origin := assemble config now outside sink
    let s := origin.after hs
    let begun := s.happen (.converse given)
    (forall later, (forall h, h ∈ later -> h.keepsConsole = true) ->
      exists rounds worker line turns,
        Conversation (origin.scenes (hs ++ .converse given :: later)) (begun.scenes later) given
          (begun.after later) rounds worker line turns ∧
        (forall round, round ∈ rounds -> round.Proper) ∧
        (forall scene, scene ∈ consoleTurns (begun.scenes later) ->
          scene.after.running = scene.before.running ∧
            scene.after.isCancelled = scene.before.isCancelled)) ∧
    (s.isFresh = false -> (exists line, line ∈ given ∧ Command.read line = .ok .quit) ->
      forall course, Fair course -> (forall n, (course n).keepsConsole = true) ->
        exists n, forall m, n ≤ m ->
          Adjourned (origin.scenes (hs ++ .converse given :: (List.range m).map course))
            (begun.scenes ((List.range m).map course)) given (begun.along course m)) ∧
    (exists later, (forall h, h ∈ later -> h.keepsConsole = true) ∧
      s.converse given =
        ((begun.after later).printed.reverse,
          { begun.after later with console := none, printed := [] })) := by
  intro origin s begun
  refine ⟨?_, ?_, ?_⟩
  · intro later hKeeps
    rcases conversed_after config now outside sink hs given hKeeps with
      ⟨rounds, worker, line, turns, hTalk⟩
    refine ⟨rounds, worker, line, turns, hTalk, ?_, ?_⟩
    · intro round hRound
      exact served_proper (hTalk.served round hRound)
    · intro scene hScene
      exact console_spares (List.mem_filter.mp hScene).2
  · rintro hStale ⟨line, hLine, hQuit⟩ course hFair hKeeps
    have hTalk := talk_of_fair config now outside sink hs given hStale hFair hKeeps
    rcases finishes_along hTalk hLine hQuit (n := 0) rfl with ⟨n, rest, hFinished⟩
    refine ⟨n, fun m hLater => ?_⟩
    have hStill := finished_along hTalk hLater hFinished
    exact adjourned_of_finished
      (conversed_after config now outside sink hs given (keeps_along hKeeps m)) hStill
  · exact converse_keeps s given

/-!
## Turn by turn
-/

/-- Each part in its turn, and time after each round of turns. -/
def roundRobin (n : Nat) : Happening :=
  match Turn.all[n % 8]? with
  | some turn => .turn turn
  | none => .wait n

theorem roundRobin_turn {n i : Nat} (h : n % 8 = i) {turn : Turn}
    (hTurn : Turn.all[i]? = some turn) : roundRobin n = .turn turn := by
  rw [roundRobin, h, hTurn]

theorem roundRobin_wait {n : Nat} (h : n % 8 = 7) : roundRobin n = .wait n := by
  rw [roundRobin, h]
  rfl

theorem roundRobin_fair : Fair roundRobin where
  turns := by
    intro turn n
    have hPlace : exists i, i < 8 ∧ Turn.all[i]? = some turn := by cases turn <;> decide
    rcases hPlace with ⟨i, hSmall, hTurn⟩
    exact ⟨8 * n + i, by omega, roundRobin_turn (by omega) hTurn⟩
  time := by
    intro moment n
    exact ⟨8 * (n + moment) + 7, _, by omega, roundRobin_wait (by omega), by omega⟩

theorem roundRobin_keeps (n : Nat) : (roundRobin n).keepsConsole = true := by
  unfold roundRobin
  split <;> rfl

/-- A blank line, one that means nothing, an order, a call, and a line after the first that
quits. -/
theorem console_law_roundRobin :
    let origin := assemble ⟨1000, 1000, 1.0, 60, "Tub"⟩ 0
      ⟨.tub .standard, .memory .empty, .fair⟩ none
    let lines := [" ", "dance", "ozone stop", "pump on", "quit", "help"]
    let begun := (origin.after [.start]).happen (.converse lines)
    exists n, forall m, n ≤ m ->
      Adjourned (origin.scenes ([.start] ++ .converse lines :: (List.range m).map roundRobin))
        (begun.scenes ((List.range m).map roundRobin)) lines (begun.along roundRobin m) := by
  intro origin lines begun
  have hQuits : exists line, line ∈ lines ∧ Command.read line = .ok .quit :=
    ⟨"quit", by simp [lines], rfl⟩
  exact (console_law ⟨1000, 1000, 1.0, 60, "Tub"⟩ 0 ⟨.tub .standard, .memory .empty, .fair⟩ none
    [.start] lines).2.1 rfl hQuits roundRobin roundRobin_fair roundRobin_keeps

end Monitor
end TubMonitor
