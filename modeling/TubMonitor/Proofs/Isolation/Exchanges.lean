import TubMonitor.Proofs.Isolation.Marks
import TubMonitor.Proofs.Mail.Rendezvous

/-!
# What the marks tell

The marks of a loop tell which messages it tried to send and what became of its commands:
the ledger of its channel has as many answers as commands were carried out, then as many
open cases as are in hand or wait, and then as many losses.
-/

namespace TubMonitor
namespace Monitor

/-!
## Reading the marks
-/

def attempt? : Nat × Mark -> Option (Nat × String)
  | (now, .deed (.notify text)) => some (now, text)
  | _ => none

def acked? : Nat × Mark -> Option Nat
  | (now, .deed (.acknowledge _)) => some now
  | _ => none

def lost? : Nat × Mark -> Option Nat
  | (now, .lost) => some now
  | _ => none

/-- A command that was sent, and why it was refused, if it was. -/
structure Sending where
  now : Nat
  order : Console.Order
  refusal : Option Fault

def sending? : Nat × Mark -> Option Sending
  | (now, .sent order refusal) => some { now, order, refusal }
  | _ => none

section Reading

variable {β : Type} {source : Notice.Source} {scene : Scene}

theorem marks_pick (pick : Nat × Mark -> Option β) :
    (scene.marks source).filterMap pick =
      (scene.effects source).filterMap
          (fun effect => pick (scene.before.now, .deed effect.anonymous)) ++
        ((scene.lost source).filterMap fun _ => pick (scene.before.now, .lost)) ++
        (scene.ownOrder? source).toList.filterMap fun order =>
          pick (scene.before.now, .sent order (scene.refusal? order)) := by
  simp only [Scene.marks, List.map_append, List.filterMap_append, List.map_map,
    List.filterMap_map, Function.comp_def]

theorem filterMap_none {α : Type} (l : List α) :
    l.filterMap (fun _ => (none : Option β)) = [] :=
  List.filterMap_eq_nil_iff.mpr fun _ _ => rfl

theorem attempts_marks (source : Notice.Source) (past : List Scene) :
    attempts source past = (marks source past).filterMap attempt? := by
  rw [marks, List.filterMap_flatMap, attempts]
  apply List.flatMap_congr
  intro scene _
  rw [marks_pick]
  simp only [attempt?, filterMap_none, List.append_nil]
  induction scene.effects source with
  | nil => rfl
  | cons effect rest ih =>
      cases effect with
      | notify text => exact congrArg ((scene.before.now, text) :: ·) ih
      | call request => exact ih
      | acknowledge ticket => exact ih

theorem acks_marks (source : Notice.Source) (past : List Scene) :
    acks source past = (marks source past).filterMap acked? := by
  rw [marks, List.filterMap_flatMap, acks]
  apply List.flatMap_congr
  intro scene _
  rw [marks_pick, Scene.acks]
  simp only [acked?, filterMap_none, List.append_nil]
  induction scene.effects source with
  | nil => rfl
  | cons effect rest ih =>
      cases effect with
      | acknowledge ticket => exact congrArg (scene.before.now :: ·) ih
      | call request => exact ih
      | notify text => exact ih

theorem lost_now (scene : Scene) (source : Notice.Source) :
    (scene.lost source).map (fun _ => scene.before.now) = scene.lost source := by
  have hLosses {α : Type} (box : Monitor -> Mailbox α) :
      (scene.losses box).map (fun _ => scene.before.now) = scene.losses box := by
    unfold Scene.losses
    split <;> simp
  cases source with
  | ozone => exact hLosses ozoneBox
  | leak => rfl
  | temperature => exact hLosses targetBox

theorem lost_marks (source : Notice.Source) (past : List Scene) :
    past.flatMap (fun scene => scene.lost source) = (marks source past).filterMap lost? := by
  rw [marks, List.filterMap_flatMap]
  apply List.flatMap_congr
  intro scene _
  have hEffects : (scene.effects source).filterMap
      (fun effect => lost? (scene.before.now, .deed effect.anonymous)) = [] := by
    exact List.filterMap_eq_nil_iff.mpr fun _ _ => rfl
  rw [marks_pick, hEffects]
  simp only [lost?, filterMap_none, List.append_nil, List.nil_append]
  exact (lost_now scene source).symm.trans (congrFun List.filterMap_eq_map.symm _)

def sendings (source : Notice.Source) (past : List Scene) : List Sending :=
  (marks source past).filterMap sending?

theorem sendings_cons (source : Notice.Source) (scene : Scene) (rest : List Scene) :
    sendings source (scene :: rest) =
      ((scene.ownOrder? source).toList.map fun order =>
        { now := scene.before.now, order, refusal := scene.refusal? order }) ++
        sendings source rest := by
  have hEffects : (scene.effects source).filterMap
      (fun effect => sending? (scene.before.now, .deed effect.anonymous)) = [] :=
    List.filterMap_eq_nil_iff.mpr fun _ _ => rfl
  rw [sendings, marks_cons, List.filterMap_append, marks_pick, hEffects]
  simp only [sending?, filterMap_none, List.nil_append]
  rw [← List.filterMap_eq_map]
  rfl

end Reading

/-!
## Exchanges
-/

/-- The tickets of the commands for a loop that were put into its mailbox. -/
def tickets (source : Notice.Source) (past : List Scene) : List Nat :=
  past.filterMap fun scene =>
    (scene.ownOrder? source).bind fun order => (scene.before.send order).1.toOption

/-- The commands that were not refused are answered in their order. -/
def fill : List Sending -> List (Option (Nat × Except Fault Unit)) -> List Exchange
  | [], _ => []
  | sending :: rest, verdicts =>
      match sending.refusal with
      | some fault =>
          { sent := sending.now
            order := sending.order
            verdict := some (sending.now, .error fault) } :: fill rest verdicts
      | none =>
          { sent := sending.now
            order := sending.order
            verdict := verdicts.head?.join } :: fill rest verdicts.tail

theorem filterMap_first {α β : Type} (f : α -> Option β) (first : α) (rest : List α) :
    (first :: rest).filterMap f = (f first).toList ++ rest.filterMap f := by
  rw [List.filterMap_cons]
  cases f first <;> rfl

theorem exchanges_fill (source : Notice.Source) (past : List Scene) (s : Monitor) :
    exchanges source past s =
      fill (sendings source past) ((tickets source past).map (verdictOf s.results)) := by
  induction past with
  | nil => rfl
  | cons scene rest ih =>
      rw [sendings_cons, exchanges, tickets, filterMap_first, filterMap_first]
      cases hOrder : scene.ownOrder? source with
      | none => exact ih
      | some order =>
          rw [Option.map_some, Option.bind_some]
          cases hSend : (scene.before.send order).1 with
          | error fault =>
              have hRefused : scene.refusal? order = some fault := by
                rw [Scene.refusal?, hSend]
              have hVerdict : scene.verdict? order s = some (scene.before.now, .error fault) := by
                rw [Scene.verdict?, hSend]
              rw [hVerdict, Option.toList_some, Option.toList_some, List.map_singleton, hRefused]
              exact congrArg (_ :: ·) ih
          | ok ticket =>
              have hTaken : scene.refusal? order = none := by
                rw [Scene.refusal?, hSend]
              have hVerdict : scene.verdict? order s = verdictOf s.results ticket := by
                rw [Scene.verdict?, hSend]
              rw [hVerdict, Option.toList_some, Option.toList_some, List.map_singleton, hTaken]
              exact congrArg (_ :: ·) ih

/-!
## Verdicts
-/

/-- So many commands carried out, left open and lost. -/
def verdicts (acks : List Nat) (waiting : Nat) (losses : List Nat) :
    List (Option (Nat × Except Fault Unit)) :=
  acks.map (fun moment => some (moment, .ok ())) ++ List.replicate waiting none ++
    losses.map fun moment => some (moment, .error .monitorStopped)

theorem ledger_verdicts {α : Type} {posted held : List (Letter α)}
    {answered lost : List (Nat × Letter α)} {box : Mailbox α} {results : List Result}
    {acks losses : List Nat} (h : Ledger posted box results answered held lost)
    (hDated : Dated answered lost acks losses) :
    (posted.map Letter.ticket).map (verdictOf results) =
      verdicts acks (held.length + box.pending.length) losses := by
  have hAnswered : (answered.map Prod.snd).map (fun letter => verdictOf results letter.ticket) =
      acks.map fun moment => some (moment, .ok ()) := by
    rw [← hDated.acks, List.map_map, List.map_map]
    exact List.map_congr_left h.answered
  have hOpen : (held ++ box.pending).map (fun letter => verdictOf results letter.ticket) =
      List.replicate (held.length + box.pending.length) none := by
    rw [List.map_congr_left h.unanswered, List.map_const', List.length_append]
  have hLost : (lost.map Prod.snd).map (fun letter => verdictOf results letter.ticket) =
      losses.map fun moment => some (moment, .error .monitorStopped) := by
    rw [← hDated.losses, List.map_map, List.map_map]
    exact List.map_congr_left h.lost
  rw [List.map_map, h.letters, verdicts, ← hAnswered, ← hOpen, ← hLost]
  simp [Function.comp_def]

theorem tickets_ozone (past : List Scene) :
    tickets .ozone past = (ozonePosts past).map Letter.ticket := by
  rw [ozonePosts, posts, List.filterMap_filterMap, List.map_filterMap, tickets]
  apply List.filterMap_congr
  intro scene _
  unfold Scene.ownOrder? Scene.post?
  cases scene.order? with
  | none => rfl
  | some order =>
      cases order with
      | ozone command =>
          show (scene.before.send (.ozone command)).1.toOption = _
          dsimp only [Option.bind_some]
          cases (scene.before.send (.ozone command)).1 <;> rfl
      | target command =>
          show none = _
          dsimp only [Option.bind_some]
          cases (scene.before.send (.target command)).1 <;> rfl

theorem tickets_target (past : List Scene) :
    tickets .temperature past = (targetPosts past).map Letter.ticket := by
  rw [targetPosts, posts, List.filterMap_filterMap, List.map_filterMap, tickets]
  apply List.filterMap_congr
  intro scene _
  unfold Scene.ownOrder? Scene.post?
  cases scene.order? with
  | none => rfl
  | some order =>
      cases order with
      | ozone command =>
          show none = _
          dsimp only [Option.bind_some]
          cases (scene.before.send (.ozone command)).1 <;> rfl
      | target command =>
          show (scene.before.send (.target command)).1.toOption = _
          dsimp only [Option.bind_some]
          cases (scene.before.send (.target command)).1 <;> rfl

theorem tickets_leak (past : List Scene) : tickets .leak past = [] := by
  apply List.filterMap_eq_nil_iff.mpr
  intro scene _
  unfold Scene.ownOrder?
  cases scene.order? with
  | none => rfl
  | some order => cases order <;> rfl

/-- How many commands of a loop it has in hand or in its mailbox. -/
def waiting (s : Monitor) : Notice.Source -> Nat
  | .ozone => s.ozone.state.held.length + s.ozoneBox.pending.length
  | .leak => 0
  | .temperature => s.targetBox.pending.length

section Alike

variable {source : Notice.Source} {past other : List Scene} {s t : Monitor}

theorem ozone_verdicts (h : Rendezvous past s) :
    (tickets .ozone past).map (verdictOf s.results) =
      verdicts (acks .ozone past) (s.waiting .ozone) (losses ozoneBox past) := by
  rcases h.ozone with ⟨answered, lost, hLedger, _, hDated⟩
  rw [tickets_ozone]
  exact ledger_verdicts hLedger hDated

theorem target_verdicts (h : Rendezvous past s) :
    (tickets .temperature past).map (verdictOf s.results) =
      verdicts (acks .temperature past) (s.waiting .temperature) (losses targetBox past) := by
  rcases h.target with ⟨answered, lost, hLedger, _, hDated⟩
  rw [tickets_target, ledger_verdicts hLedger hDated, List.length_nil, Nat.zero_add]
  rfl

theorem exchanges_alike (hFirst : Rendezvous past s) (hSecond : Rendezvous other t)
    (hMarks : marks source past = marks source other)
    (hWaiting : s.waiting source = t.waiting source) :
    exchanges source past s = exchanges source other t := by
  have hSendings : sendings source past = sendings source other := by
    rw [sendings, sendings, hMarks]
  have hAcks : acks source past = acks source other := by
    rw [acks_marks, acks_marks, hMarks]
  have hLost : past.flatMap (fun scene => scene.lost source) =
      other.flatMap fun scene => scene.lost source := by
    rw [lost_marks, lost_marks, hMarks]
  have hVerdicts : (tickets source past).map (verdictOf s.results) =
      (tickets source other).map (verdictOf t.results) := by
    cases source with
    | ozone =>
        have hLosses : losses ozoneBox past = losses ozoneBox other := hLost
        rw [ozone_verdicts hFirst, ozone_verdicts hSecond, hAcks, hWaiting, hLosses]
    | leak => rw [tickets_leak, tickets_leak]; rfl
    | temperature =>
        have hLosses : losses targetBox past = losses targetBox other := hLost
        rw [target_verdicts hFirst, target_verdicts hSecond, hAcks, hWaiting, hLosses]
  rw [exchanges_fill, exchanges_fill, hSendings, hVerdicts]

theorem attempts_alike (hMarks : marks source past = marks source other) :
    attempts source past = attempts source other := by
  rw [attempts_marks, attempts_marks, hMarks]

end Alike

end Monitor
end TubMonitor
