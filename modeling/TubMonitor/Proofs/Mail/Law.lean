import TubMonitor.Proofs.Mail.Doors
import TubMonitor.Proofs.Mail.Rendezvous

/-!
# The law of commands

However many clients send commands, and whenever they do: a command that cannot be
carried out is refused and leaves no trace, and any other is carried out once or not at
all, in its turn, and told so.
-/

namespace TubMonitor
namespace Monitor

/-- A command that can be carried out. -/
def Admissible (config : Config) : Console.Order -> Prop
  | .ozone (.start minutes) => 1 ≤ minutes ∧ minutes ≤ config.maxOzoneMinutes
  | .ozone .stop => True
  | .target (some degrees) => degrees.isFinite = true
  | .target none => True

/-- What the client of a scene has been told so far. -/
def answer? (s : Monitor) (scene : Scene) (order : Console.Order) :
    Option (Except Fault Unit) :=
  match (scene.before.send order).1 with
  | .error fault => some (.error fault)
  | .ok ticket => outcomeOf s.results ticket

/-- The loop has taken the very command that was sent in the scene. -/
def Applied (past : List Scene) (scene : Scene) (order : Console.Order) : Prop :=
  exists ticket, (scene.before.send order).1 = .ok ticket ∧
    match order with
    | .ozone command => ⟨command, ticket⟩ ∈ ozoneTaken past
    | .target command => ⟨command, ticket⟩ ∈ targetTaken past

/-- The loop that a command is for has not been started yet or goes on. -/
def IsAwaited (s : Monitor) : Console.Order -> Prop
  | .ozone _ => s.GoesOn s.ozone.state.hasEnded
  | .target _ => s.GoesOn s.temperature.state.hasEnded

/-!
## Sending
-/

theorem send_inadmissible {s : Monitor} {order : Console.Order}
    (h : ¬ Admissible s.config order) :
    exists text, s.send order = (.error (.invalidCommand text), s) := by
  cases order with
  | ozone command =>
      cases command with
      | stop => exact absurd trivial h
      | start minutes =>
          have hBad : minutes = 0 ∨ s.config.maxOzoneMinutes < minutes := by
            simp only [Admissible] at h
            omega
          have hCheck : exists text, Ozone.Command.check s.config.maxOzoneMinutes
              (.start minutes) = .error (.invalidCommand text) := ⟨_, if_pos hBad⟩
          rcases hCheck with ⟨text, hCheck⟩
          exact ⟨text, by simp only [send, sendOzone, hCheck]⟩
  | target command =>
      cases command with
      | none => exact absurd trivial h
      | some degrees =>
          have hBad : ¬ degrees.isFinite = true := h
          have hCheck : exists text, Temperature.Command.check (some degrees) =
              .error (.invalidCommand text) := ⟨_, if_neg hBad⟩
          rcases hCheck with ⟨text, hCheck⟩
          exact ⟨text, by simp only [send, sendTarget, hCheck]⟩

theorem send_admissible {s : Monitor} {order : Console.Order} (h : Admissible s.config order) :
    s.send order = (.error .monitorStopped, s) ∨ (s.send order).1 = .ok s.nextTicket := by
  cases order with
  | ozone command =>
      have hCheck : command.check s.config.maxOzoneMinutes = .ok () := by
        cases command with
        | stop => rfl
        | start minutes =>
            have hGood : ¬ (minutes = 0 ∨ s.config.maxOzoneMinutes < minutes) := by
              simp only [Admissible] at h
              omega
            simp only [Ozone.Command.check, if_neg hGood]
      rcases sendOzone_cases s command with
        ⟨_, hBad, _⟩ | ⟨_, _, hSend⟩ | ⟨_, box, _, hSend⟩
      · rw [hCheck] at hBad
        cases hBad
      · exact Or.inl hSend
      · exact Or.inr (congrArg Prod.fst hSend)
  | target command =>
      have hCheck : command.check = .ok () := by
        cases command with
        | none => rfl
        | some degrees =>
            have hGood : degrees.isFinite = true := h
            simp only [Temperature.Command.check, if_pos hGood]
      rcases sendTarget_cases s command with
        ⟨_, hBad, _⟩ | ⟨_, _, hSend⟩ | ⟨_, box, _, hSend⟩
      · rw [hCheck] at hBad
        cases hBad
      · exact Or.inl hSend
      · exact Or.inr (congrArg Prod.fst hSend)

/-!
## Reading the ledger
-/

/-- A client is told that all is well if and only if the command was taken. -/
structure Truthful (taken goesOn : Prop) (outcome : Option (Except Fault Unit)) : Prop where
  told : forall told, outcome = some told ->
    (told = .ok () ↔ taken) ∧ (told = .error .monitorStopped ↔ ¬ taken)
  untold : outcome = none -> goesOn

theorem truthful_ok {taken goesOn : Prop} (h : taken) : Truthful taken goesOn (some (.ok ())) where
  told := by
    intro told hTold
    cases hTold
    exact ⟨iff_of_true rfl h, iff_of_false nofun (fun hNot => hNot h)⟩
  untold := by
    intro hNone
    cases hNone

theorem truthful_stopped {taken goesOn : Prop} (h : ¬ taken) :
    Truthful taken goesOn (some (.error .monitorStopped)) where
  told := by
    intro told hTold
    cases hTold
    exact ⟨iff_of_false nofun h, iff_of_true rfl h⟩
  untold := by
    intro hNone
    cases hNone

section Ledger

variable {α : Type} {posted held : List (Letter α)} {answered lost : List (Nat × Letter α)}
  {box : Mailbox α} {results : List Result}

theorem outcome_answered (h : Ledger posted box results answered held lost)
    {letter : Letter α} (hLetter : letter ∈ answered.map Prod.snd) :
    outcomeOf results letter.ticket = some (.ok ()) := by
  rcases List.mem_map.mp hLetter with ⟨entry, hEntry, rfl⟩
  rw [outcomeOf_verdict, h.answered entry hEntry]
  rfl

theorem outcome_unanswered (h : Ledger posted box results answered held lost)
    {letter : Letter α} (hLetter : letter ∈ held ++ box.pending) :
    outcomeOf results letter.ticket = none := by
  rw [outcomeOf_verdict, h.unanswered letter hLetter]
  rfl

theorem outcome_lost (h : Ledger posted box results answered held lost)
    {letter : Letter α} (hLetter : letter ∈ lost.map Prod.snd) :
    outcomeOf results letter.ticket = some (.error .monitorStopped) := by
  rcases List.mem_map.mp hLetter with ⟨entry, hEntry, rfl⟩
  rw [outcomeOf_verdict, h.lost entry hEntry]
  rfl

theorem ledger_truthful {goesOn : Prop} {letter : Letter α}
    (h : Ledger posted box results answered held lost) (hPosted : letter ∈ posted)
    (hHeld : held ≠ [] -> goesOn) (hOpen : box.isOpen = true -> goesOn) :
    Truthful (letter ∈ answered.map Prod.snd ++ held) goesOn
      (outcomeOf results letter.ticket) := by
  rcases (ledger_mem h).mp hPosted with hAnswered | hOpenly | hLost
  · rw [outcome_answered h hAnswered]
    exact truthful_ok (List.mem_append_left _ hAnswered)
  · rw [outcome_unanswered h hOpenly]
    refine ⟨nofun, fun _ => ?_⟩
    rcases List.mem_append.mp hOpenly with hInHand | hWaits
    · exact hHeld (List.ne_nil_of_mem hInHand)
    · cases hDoor : box.isOpen with
      | true => exact hOpen hDoor
      | false =>
          rw [h.cleared hDoor] at hWaits
          cases hWaits
  · rw [outcome_lost h hLost]
    apply truthful_stopped
    intro hTaken
    have hDistinct := h.distinct
    rw [h.letters, List.append_assoc, List.map_append, List.nodup_append] at hDistinct
    refine hDistinct.2.2 _ (List.mem_map_of_mem hTaken) letter.ticket ?_ rfl
    exact List.mem_map_of_mem (List.mem_append_right _ hLost)

theorem ledger_ok {letter : Letter α} (h : Ledger posted box results answered held lost)
    (hPosted : letter ∈ posted) (hOk : outcomeOf results letter.ticket = some (.ok ())) :
    letter ∈ answered.map Prod.snd := by
  rcases (ledger_mem h).mp hPosted with hAnswered | hOpenly | hLost
  · exact hAnswered
  · rw [outcome_unanswered h hOpenly] at hOk
    cases hOk
  · rw [outcome_lost h hLost] at hOk
    cases hOk

end Ledger

theorem held_goesOn {s : Monitor} (hOrder : InOrder s) (hHeld : s.ozone.state.held ≠ []) :
    s.GoesOn s.ozone.state.hasEnded := by
  right
  constructor
  · by_contra hNot
    have hDormant := hOrder.ozone.begun.mpr (by simpa using hNot)
    exact hHeld (by simp [Ozone.Controller.held, hDormant])
  · by_contra hNot
    have hEnded := Ozone.Controller.hasEnded_iff.mp (by simpa using hNot)
    exact hHeld (by simp [Ozone.Controller.held, hEnded])

theorem ozone_truthful {past : List Scene} {s : Monitor} (hOrder : InOrder s) (hDoors : Doors s)
    (hRendezvous : Rendezvous past s) {letter : Letter Ozone.Command}
    (hPosted : letter ∈ ozonePosts past) :
    Truthful (letter ∈ ozoneTaken past) (s.GoesOn s.ozone.state.hasEnded)
      (outcomeOf s.results letter.ticket) := by
  rcases hRendezvous.ozone with ⟨answered, lost, hLedger, hTaken, _⟩
  rw [hTaken]
  exact ledger_truthful hLedger hPosted (held_goesOn hOrder) hDoors.ozone.mp

theorem target_truthful {past : List Scene} {s : Monitor} (hDoors : Doors s)
    (hRendezvous : Rendezvous past s) {letter : Letter Temperature.Command}
    (hPosted : letter ∈ targetPosts past) :
    Truthful (letter ∈ targetTaken past) (s.GoesOn s.temperature.state.hasEnded)
      (outcomeOf s.results letter.ticket) := by
  rcases hRendezvous.target with ⟨answered, lost, hLedger, hTaken, _⟩
  have hTruthful := ledger_truthful hLedger hPosted (absurd rfl) hDoors.target.mp
  rwa [List.append_nil, ← hTaken] at hTruthful

theorem answer_truthful {past : List Scene} {s : Monitor} (hOrder : InOrder s)
    (hDoors : Doors s) (hRendezvous : Rendezvous past s) {scene : Scene}
    (hScene : scene ∈ past) {order : Console.Order} (hSent : scene.order? = some order)
    (hAdmissible : Admissible scene.before.config order) :
    Truthful (Applied past scene order) (s.IsAwaited order) (s.answer? scene order) := by
  rcases send_admissible hAdmissible with hStopped | hTicket
  · have hAnswer : s.answer? scene order = some (.error .monitorStopped) := by
      rw [answer?, hStopped]
    rw [hAnswer]
    apply truthful_stopped
    rintro ⟨ticket, hOk, _⟩
    rw [hStopped] at hOk
    cases hOk
  · have hAnswer : s.answer? scene order = outcomeOf s.results scene.before.nextTicket := by
      rw [answer?, hTicket]
    have hPost : ⟨order, scene.before.nextTicket⟩ ∈ posts past := by
      refine List.mem_filterMap.mpr ⟨scene, hScene, ?_⟩
      simp [Scene.post?, hSent, hTicket]
    rw [hAnswer]
    cases order with
    | ozone command =>
        have hApplied : Applied past scene (.ozone command) ↔
            ⟨command, scene.before.nextTicket⟩ ∈ ozoneTaken past := by
          simp [Applied, hTicket]
        have hLetter : (⟨command, scene.before.nextTicket⟩ : Letter Ozone.Command) ∈
            ozonePosts past := mem_ozonePosts.mpr hPost
        have hTruthful := ozone_truthful hOrder hDoors hRendezvous hLetter
        rw [← hApplied] at hTruthful
        exact hTruthful
    | target command =>
        have hApplied : Applied past scene (.target command) ↔
            ⟨command, scene.before.nextTicket⟩ ∈ targetTaken past := by
          simp [Applied, hTicket]
        have hLetter : (⟨command, scene.before.nextTicket⟩ : Letter Temperature.Command) ∈
            targetPosts past := mem_targetPosts.mpr hPost
        have hTruthful := target_truthful hDoors hRendezvous hLetter
        rw [← hApplied] at hTruthful
        exact hTruthful

/-!
## What is shown when a command is answered
-/

/-- A step of the loop as the ledger sees it: what it answers is what leaves its hand. -/
theorem ozone_hand {s : Monitor} (hOrder : InOrder s)
    (hIdle : s.ozone.state.phase = .waiting none -> s.ozone.state.shown.running = false)
    (h : Happening) :
    exists acked,
      s.ozone.state.held ++ (Scene.mk s h).ozoneLetters =
        acked ++ (s.happen h).ozone.state.held ∧
        forall letter, letter ∈ acked ->
          letter.command.Shown (s.happen h).ozone.state.shown := by
  have hHappens := ozone_happens hOrder h
  generalize hNext : s.happen h = next at hHappens
  cases hHappens with
  | apart hApart =>
      exact ⟨[], by rw [ozoneLetters_none hApart.event, hApart.ozone]; simp, by simp⟩
  | start hFresh =>
      have hDormant := hOrder.ozone.begun.mpr (by simp_all [isFresh])
      have hOzone : s.start.2.ozone.state = Ozone.Controller.start.1 := by
        rw [start_fresh hFresh]
        dsimp only
        split <;> rfl
      refine ⟨[], ?_, by simp⟩
      rw [ozoneLetters_none rfl, hOzone, Ozone.Controller.held, hDormant]
      rfl
  | join hCancelled hOver =>
      exact ⟨[], by rw [ozoneLetters_none rfl, List.append_nil]; rfl, by simp⟩
  | @move event result served next hMoves =>
      rcases Ozone.Controller.move_answers hIdle hMoves.move with ⟨acked, hAnswers⟩
      have hLetters : (Scene.mk s (.turn .ozone)).ozoneLetters = event.letters := by
        simp [Scene.ozoneLetters, hMoves.scene]
      rw [hLetters, hMoves.ozone]
      exact ⟨acked, hAnswers.kept, hAnswers.shown⟩

theorem target_hand {s : Monitor} (hOrder : InOrder s) (h : Happening)
    {letter : Letter Temperature.Command} (hLetter : letter ∈ (Scene.mk s h).targetLetters) :
    letter.command.Shown (s.happen h).temperature.state := by
  have hActs := acts s h
  generalize hNext : s.happen h = next at hActs
  cases hActs with
  | @temperature event served hEvent =>
      have hServes := temperatureEvent_serves hEvent
      have hMove := temperature_move hOrder hServes
      have hLetters : (Scene.mk s (.turn .temperature)).targetLetters = event.letters := by
        simp [Scene.targetLetters, Scene.temperatureEvent?, hEvent]
      rw [hLetters] at hLetter
      rcases temperatureServes_eq hServes with ⟨_, _, rfl⟩
      rw [handTemperature_temperature]
      exact Temperature.Sampler.move_shown hMove hLetter
  | aside hAside =>
      rw [targetLetters_none hAside.temperatureEvent] at hLetter
      cases hLetter
  | _ => cases hLetter

section Shown

variable {past : List Scene} {s : Monitor}

theorem ozone_shown (hOrder : InOrder s)
    (hIdle : s.ozone.state.phase = .waiting none -> s.ozone.state.shown.running = false)
    (hRendezvous : Rendezvous past s) (h : Happening) {letter : Letter Ozone.Command}
    (hPosted : letter ∈ ozonePosts past)
    (hBefore : outcomeOf s.results letter.ticket = none)
    (hAfter : outcomeOf (s.happen h).results letter.ticket = some (.ok ())) :
    letter.command.Shown (s.happen h).ozone.state.shown := by
  have hNext := rendezvous_happen hOrder hIdle hRendezvous h
  rcases hRendezvous.ozone with ⟨answered, lost, hLedger, hTaken, _⟩
  rcases hNext.ozone with ⟨nowAnswered, nowLost, hNowLedger, hNowTaken, _⟩
  rcases ozone_hand hOrder hIdle h with ⟨acked, hKept, hShown⟩
  have hStill : letter ∈ ozonePosts (past ++ [⟨s, h⟩]) := by
    rw [mem_ozonePosts] at hPosted ⊢
    rw [posts, List.filterMap_append]
    exact List.mem_append_left _ hPosted
  have hSplit : nowAnswered.map Prod.snd = answered.map Prod.snd ++ acked := by
    rw [ozoneTaken_concat, hTaken, List.append_assoc, hKept, ← List.append_assoc] at hNowTaken
    exact (List.append_cancel_right hNowTaken).symm
  have hNowAnswered := ledger_ok hNowLedger hStill hAfter
  rw [hSplit] at hNowAnswered
  rcases List.mem_append.mp hNowAnswered with hOld | hNew
  · rw [outcome_answered hLedger hOld] at hBefore
    cases hBefore
  · exact hShown letter hNew

theorem target_shown (hOrder : InOrder s)
    (hIdle : s.ozone.state.phase = .waiting none -> s.ozone.state.shown.running = false)
    (hRendezvous : Rendezvous past s) (h : Happening) {letter : Letter Temperature.Command}
    (hPosted : letter ∈ targetPosts past)
    (hBefore : outcomeOf s.results letter.ticket = none)
    (hAfter : outcomeOf (s.happen h).results letter.ticket = some (.ok ())) :
    letter.command.Shown (s.happen h).temperature.state := by
  have hNext := rendezvous_happen hOrder hIdle hRendezvous h
  rcases hRendezvous.target with ⟨answered, lost, hLedger, hTaken, _⟩
  rcases hNext.target with ⟨nowAnswered, nowLost, hNowLedger, hNowTaken, _⟩
  have hStill : letter ∈ targetPosts (past ++ [⟨s, h⟩]) := by
    rw [mem_targetPosts] at hPosted ⊢
    rw [posts, List.filterMap_append]
    exact List.mem_append_left _ hPosted
  have hNowAnswered := ledger_ok hNowLedger hStill hAfter
  rw [← hNowTaken, targetTaken_concat, hTaken] at hNowAnswered
  rcases List.mem_append.mp hNowAnswered with hOld | hNew
  · rw [outcome_answered hLedger hOld] at hBefore
    cases hBefore
  · exact target_hand hOrder h hNew

end Shown

/-!
## The law
-/

/-- Taken in the order of sending, each once, and only when the one before is done with. -/
structure InTurn {α : Type} (posted taken : List (Letter α)) (results : List Result) : Prop where
  order : taken <+: posted
  once : (posted.map Letter.ticket).Nodup
  single : forall letter, letter ∈ taken.dropLast ->
    outcomeOf results letter.ticket = some (.ok ())

theorem ozone_inTurn {past : List Scene} {s : Monitor} (hRendezvous : Rendezvous past s) :
    InTurn (ozonePosts past) (ozoneTaken past) s.results := by
  rcases hRendezvous.ozone with ⟨answered, lost, hLedger, hTaken, _⟩
  refine ⟨?_, hLedger.distinct, ?_⟩
  · rw [hTaken, hLedger.letters, List.append_assoc (answered.map Prod.snd ++ s.ozone.state.held)]
    exact List.prefix_append ..
  · intro letter hLetter
    apply outcome_answered hLedger
    rw [hTaken] at hLetter
    rcases s.ozone.state.held_cases with hNone | ⟨inHand, hOne⟩
    · rw [hNone, List.append_nil] at hLetter
      exact (List.dropLast_sublist _).subset hLetter
    · rwa [hOne, List.dropLast_concat] at hLetter

theorem target_inTurn {past : List Scene} {s : Monitor} (hRendezvous : Rendezvous past s) :
    InTurn (targetPosts past) (targetTaken past) s.results := by
  rcases hRendezvous.target with ⟨answered, lost, hLedger, hTaken, _⟩
  refine ⟨?_, hLedger.distinct, ?_⟩
  · rw [hTaken, hLedger.letters, List.append_nil, List.append_assoc]
    exact List.prefix_append ..
  · intro letter hLetter
    rw [hTaken] at hLetter
    exact outcome_answered hLedger ((List.dropLast_sublist _).subset hLetter)

theorem answer_invalid {s : Monitor} {past : List Scene} (hOrder : InOrder s) (hDoors : Doors s)
    (hRendezvous : Rendezvous past s) {scene : Scene} (hScene : scene ∈ past)
    {order : Console.Order} (hSent : scene.order? = some order) :
    (exists text, s.answer? scene order = some (.error (.invalidCommand text))) ↔
      ¬ Admissible scene.before.config order := by
  constructor
  · rintro ⟨text, hAnswer⟩ hAdmissible
    have hTruthful := answer_truthful hOrder hDoors hRendezvous hScene hSent hAdmissible
    have hTold := hTruthful.told _ hAnswer
    by_cases hApplied : Applied past scene order
    · exact absurd (hTold.1.mpr hApplied) nofun
    · exact absurd (hTold.2.mpr hApplied) nofun
  · intro hBad
    rcases send_inadmissible hBad with ⟨text, hSend⟩
    exact ⟨text, by rw [answer?, hSend]⟩

/--
The law, in every state that can be reached, for every command ever sent and for every
answer that is given next.
-/
theorem command_law (config : Config) (now : Nat) (outside : Outside)
    (sink : Option Notice.Sink) (hs : List Happening) :
    let past := (assemble config now outside sink).scenes hs
    let s := (assemble config now outside sink).after hs
    InTurn (ozonePosts past) (ozoneTaken past) s.results ∧
      InTurn (targetPosts past) (targetTaken past) s.results ∧
      (forall scene order, scene ∈ past -> scene.order? = some order ->
        ((exists text, s.answer? scene order = some (.error (.invalidCommand text))) ↔
          ¬ Admissible config order) ∧
        (¬ Admissible config order -> (scene.before.send order).2 = scene.before) ∧
        (Admissible config order ->
          (forall told, s.answer? scene order = some told ->
            (told = .ok () ↔ Applied past scene order) ∧
              (told = .error .monitorStopped ↔ ¬ Applied past scene order)) ∧
            (s.answer? scene order = none -> s.IsAwaited order))) ∧
      (forall h (letter : Letter Ozone.Command), letter ∈ ozonePosts past ->
        outcomeOf s.results letter.ticket = none ->
        outcomeOf (s.happen h).results letter.ticket = some (.ok ()) ->
        letter.command.Shown (s.happen h).snapshot.ozone) ∧
      (forall h (letter : Letter Temperature.Command), letter ∈ targetPosts past ->
        outcomeOf s.results letter.ticket = none ->
        outcomeOf (s.happen h).results letter.ticket = some (.ok ()) ->
        (s.happen h).snapshot.target = letter.command.map Temperature.Target.armed) := by
  intro past s
  have hOrder : InOrder s := inOrder_after (inOrder_assemble config now outside sink) hs
  have hDoors : Doors s :=
    doors_after (inOrder_assemble config now outside sink)
      (doors_assemble config now outside sink) hs
  have hRendezvous : Rendezvous past s := rendezvous_after config now outside sink hs
  have hIdle := shown_idle (tracks_after config now outside sink hs)
  refine ⟨ozone_inTurn hRendezvous, target_inTurn hRendezvous, ?_, ?_, ?_⟩
  · intro scene order hScene hSent
    rcases mem_scenes hScene with ⟨first, _, _, hBefore⟩
    have hConfig : scene.before.config = config := by
      rw [hBefore, config_after]
      rfl
    have hInvalid := answer_invalid hOrder hDoors hRendezvous hScene hSent
    rw [hConfig] at hInvalid
    refine ⟨hInvalid, ?_, ?_⟩
    · intro hBad
      rw [← hConfig] at hBad
      rcases send_inadmissible hBad with ⟨text, hSend⟩
      rw [hSend]
    · intro hGood
      rw [← hConfig] at hGood
      have hTruthful := answer_truthful hOrder hDoors hRendezvous hScene hSent hGood
      exact ⟨hTruthful.told, hTruthful.untold⟩
  · intro h letter hPosted hBefore hAfter
    exact ozone_shown hOrder hIdle hRendezvous h hPosted hBefore hAfter
  · intro h letter hPosted hBefore hAfter
    exact target_shown hOrder hIdle hRendezvous h hPosted hBefore hAfter

end Monitor
end TubMonitor
