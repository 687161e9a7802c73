import TubMonitor.Proofs.Mail.Answering
import TubMonitor.Proofs.Mail.Law
import TubMonitor.Proofs.Mail.Verdicts

/-!
# Honest answers

Whoever has been told how a command came out has been told the truth for good: good news if
and only if the loop has taken the command, and then the panel showed what it brought about
at the instant of the answer.
-/

namespace TubMonitor
namespace Monitor

/-- The panel shows what the command has brought about. -/
def ShownOn (shown : Snapshot) : Console.Order -> Prop
  | .ozone command => command.Shown shown.ozone
  | .target command => shown.target = command.map Temperature.Target.armed

/-- The client hears of the command in this scene, and the panel shows what became of it. -/
def Confirms (scene sent : Scene) (order : Console.Order) : Prop :=
  scene.before.answer? sent order = none ∧ scene.after.answer? sent order = some (.ok ()) ∧
    ShownOn scene.after.snapshot order

/-- How a command came out that was sent in a scene. -/
structure CameOut (past : List Scene) (s : Monitor) (sent : Scene) (order : Console.Order)
    (outcome : Except Fault Unit) : Prop where
  answer : s.answer? sent order = some outcome
  applied : outcome = .ok () ↔ Applied past sent order
  confirmed : outcome = .ok () -> exists scene, scene ∈ past ∧ Confirms scene sent order

/-- All that clients have been told is true. -/
def Honest (past : List Scene) (s : Monitor) : Prop :=
  forall sent order outcome, sent ∈ past -> sent.order? = some order ->
    s.answer? sent order = some outcome -> CameOut past s sent order outcome

/-!
## A command that has just been sent
-/

theorem order_quiet {scene : Scene} {order : Console.Order} (h : scene.order? = some order) :
    scene.ozoneEvent? = none ∧ scene.temperatureEvent? = none := by
  rcases scene with ⟨s, happening⟩
  cases happening with
  | turn turn =>
      cases turn with
      | console => exact ⟨rfl, rfl⟩
      | _ => cases h
  | send order => exact ⟨rfl, rfl⟩
  | _ => cases h

section Step

variable {past : List Scene} {s : Monitor} {h : Happening} {order : Console.Order}

theorem not_applied_yet (hRendezvous : Rendezvous past s)
    (hSent : (Scene.mk s h).order? = some order) :
    ¬ Applied (past ++ [⟨s, h⟩]) ⟨s, h⟩ order := by
  rintro ⟨ticket, hTicket, hTaken⟩
  rcases order_quiet hSent with ⟨hOzone, hTarget⟩
  have hNew : ticket = s.nextTicket := (send_ok (Prod.ext hTicket rfl)).1
  subst hNew
  cases order with
  | ozone command =>
      dsimp only at hTaken
      rw [ozoneTaken_concat, ozoneLetters_none hOzone, List.append_nil] at hTaken
      have hPosted := (ozone_inTurn hRendezvous).order.subset hTaken
      exact Nat.lt_irrefl _ (hRendezvous.below _ (mem_ozonePosts.mp hPosted))
  | target command =>
      dsimp only at hTaken
      rw [targetTaken_concat, targetLetters_none hTarget, List.append_nil] at hTaken
      have hPosted := (target_inTurn hRendezvous).order.subset hTaken
      exact Nat.lt_irrefl _ (hRendezvous.below _ (mem_targetPosts.mp hPosted))

/-!
## One more scene
-/

/-- Good news is told if and only if the command was taken. -/
theorem applied_iff (hMail : MailInOrder past s) {sent : Scene} (hSent : sent ∈ past)
    (hOrder : sent.order? = some order) {outcome : Except Fault Unit}
    (hAnswer : s.answer? sent order = some outcome) :
    outcome = .ok () ↔ Applied past sent order := by
  by_cases hGood : Admissible sent.before.config order
  · have hTruthful :=
      answer_truthful hMail.order hMail.doors hMail.rendezvous hSent hOrder hGood
    exact (hTruthful.told outcome hAnswer).1
  · rcases send_inadmissible hGood with ⟨text, hSend⟩
    have hRefused : s.answer? sent order = some (.error (.invalidCommand text)) := by
      rw [answer?, hSend]
    rw [hRefused] at hAnswer
    cases hAnswer
    constructor
    · intro hOk
      cases hOk
    · rintro ⟨ticket, hTicket, _⟩
      rw [hSend] at hTicket
      cases hTicket

/-- An answer is there already or is given now, and what is good news is shown. -/
theorem answer_happen (hMail : MailInOrder past s) (h : Happening) {sent : Scene}
    (hSent : sent ∈ past) (hOrder : sent.order? = some order) {outcome : Except Fault Unit}
    (hAnswer : (s.happen h).answer? sent order = some outcome) :
    s.answer? sent order = some outcome ∨
      (s.answer? sent order = none ∧
        (outcome = .ok () -> ShownOn (s.happen h).snapshot order)) := by
  unfold answer? at hAnswer ⊢
  cases hTicket : (sent.before.send order).1 with
  | error fault =>
      rw [hTicket] at hAnswer
      exact Or.inl hAnswer
  | ok ticket =>
      rw [hTicket] at hAnswer
      dsimp only at hAnswer ⊢
      cases hBefore : outcomeOf s.results ticket with
      | some told =>
          have hStill := outcome_stands
            (addsResults_happen hMail.order hMail.idle hMail.rendezvous h) hBefore
          exact Or.inl (hStill.symm.trans hAnswer)
      | none =>
          refine Or.inr ⟨rfl, ?_⟩
          rintro rfl
          have hPost : ⟨order, ticket⟩ ∈ posts past :=
            List.mem_filterMap.mpr ⟨sent, hSent, by simp [Scene.post?, hOrder, hTicket]⟩
          cases order with
          | ozone command =>
              have hLetter : (⟨command, ticket⟩ : Letter Ozone.Command) ∈ ozonePosts past :=
                mem_ozonePosts.mpr hPost
              exact ozone_shown hMail.order hMail.idle hMail.rendezvous h hLetter hBefore hAnswer
          | target command =>
              have hLetter : (⟨command, ticket⟩ : Letter Temperature.Command) ∈
                  targetPosts past := mem_targetPosts.mpr hPost
              exact target_shown hMail.order hMail.idle hMail.rendezvous h hLetter hBefore hAnswer

theorem answer_stands (hMail : MailInOrder past s) (h : Happening) {sent : Scene}
    {outcome : Except Fault Unit} (hAnswer : s.answer? sent order = some outcome) :
    (s.happen h).answer? sent order = some outcome := by
  unfold answer? at hAnswer ⊢
  cases hTicket : (sent.before.send order).1 with
  | error fault =>
      rw [hTicket] at hAnswer
      exact hAnswer
  | ok ticket =>
      rw [hTicket] at hAnswer
      exact outcome_stands (addsResults_happen hMail.order hMail.idle hMail.rendezvous h) hAnswer

theorem honest_happen (hMail : MailInOrder past s) (h : Happening)
    (hNext : MailInOrder (past ++ [⟨s, h⟩]) (s.happen h)) (hHonest : Honest past s) :
    Honest (past ++ [⟨s, h⟩]) (s.happen h) := by
  intro sent order outcome hSent hOrder hAnswer
  have hApplied := applied_iff hNext hSent hOrder hAnswer
  refine ⟨hAnswer, hApplied, fun hOk => ?_⟩
  rcases List.mem_append.mp hSent with hOld | hNew
  · rcases answer_happen hMail h hOld hOrder hAnswer with hTold | ⟨hUntold, hShown⟩
    · rcases (hHonest sent order outcome hOld hOrder hTold).confirmed hOk with
        ⟨scene, hScene, hConfirms⟩
      exact ⟨scene, List.mem_append_left _ hScene, hConfirms⟩
    · exact ⟨⟨s, h⟩, by simp, hUntold, hOk ▸ hAnswer, hShown hOk⟩
  · rw [List.mem_singleton] at hNew
    subst hNew
    exact absurd (hApplied.mp hOk) (not_applied_yet hMail.rendezvous hOrder)

end Step

theorem honest_after (config : Config) (now : Nat) (outside : Outside)
    (sink : Option Notice.Sink) (hs : List Happening) :
    Honest ((assemble config now outside sink).scenes hs)
      ((assemble config now outside sink).after hs) := by
  induction hs using List.reverseRecOn with
  | nil =>
      intro sent order outcome hSent
      cases hSent
  | append_singleton hs h ih =>
      have hNext := mailInOrder_after config now outside sink (hs ++ [h])
      rw [scenes_concat, after_concat] at hNext ⊢
      exact honest_happen (mailInOrder_after config now outside sink hs) h hNext ih

end Monitor
end TubMonitor
