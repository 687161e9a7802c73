import Mathlib.Data.List.Nodup
import TubMonitor.Proofs.Happenings
import TubMonitor.Proofs.Mail.Ledger
import TubMonitor.Proofs.Mail.Letters

/-!
# What was posted and taken

A history tells which commands were sent, by whomever, which of them were put into a
mailbox, and which of those the loops have taken.
-/

namespace TubMonitor
namespace Monitor

/-!
## Sending
-/

def orderIn : List Console.Effect -> Option Console.Order
  | [.order order] => some order
  | _ => none

def consoleOrder? (s : Monitor) : Option Console.Order :=
  s.console.bind fun console =>
    (s.consoleEvent? console).bind fun (event, _) => orderIn (console.state.step event).2

def Scene.order? (scene : Scene) : Option Console.Order :=
  match scene.happening with
  | .send order => some order
  | .turn .console => scene.before.consoleOrder?
  | _ => none

theorem idle_order {s : Monitor} {turn : Turn} (hIdle : s.turn? turn = none) :
    (Scene.mk s (.turn turn)).order? = none := by
  cases turn with
  | console =>
      change s.consoleTurn? = none at hIdle
      show s.consoleOrder? = none
      unfold consoleTurn? at hIdle
      unfold consoleOrder?
      cases hConsole : s.console with
      | none => rfl
      | some console =>
          simp only [hConsole, Option.map_eq_none_iff] at hIdle
          simp [hIdle]
  | _ => rfl

def Scene.post? (scene : Scene) : Option (Letter Console.Order) :=
  scene.order?.bind fun order =>
    match (scene.before.send order).1 with
    | .ok ticket => some ⟨order, ticket⟩
    | .error _ => none

def posts (past : List Scene) : List (Letter Console.Order) :=
  past.filterMap Scene.post?

def toOzone? : Letter Console.Order -> Option (Letter Ozone.Command)
  | ⟨.ozone command, ticket⟩ => some ⟨command, ticket⟩
  | ⟨.target _, _⟩ => none

def toTarget? : Letter Console.Order -> Option (Letter Temperature.Command)
  | ⟨.ozone _, _⟩ => none
  | ⟨.target command, ticket⟩ => some ⟨command, ticket⟩

def ozonePosts (past : List Scene) : List (Letter Ozone.Command) :=
  (posts past).filterMap toOzone?

def targetPosts (past : List Scene) : List (Letter Temperature.Command) :=
  (posts past).filterMap toTarget?

/-!
## Taking
-/

def Scene.ozoneLetters (scene : Scene) : List (Letter Ozone.Command) :=
  (scene.ozoneEvent?.map Ozone.Event.letters).getD []

def Scene.targetLetters (scene : Scene) : List (Letter Temperature.Command) :=
  (scene.temperatureEvent?.map Temperature.Event.letters).getD []

def ozoneTaken (past : List Scene) : List (Letter Ozone.Command) :=
  past.flatMap Scene.ozoneLetters

def targetTaken (past : List Scene) : List (Letter Temperature.Command) :=
  past.flatMap Scene.targetLetters

/-!
## One more scene
-/

theorem posts_none (past : List Scene) {scene : Scene} (h : scene.post? = none) :
    posts (past ++ [scene]) = posts past := by
  simp [posts, h]

theorem posts_some (past : List Scene) {scene : Scene} {letter : Letter Console.Order}
    (h : scene.post? = some letter) : posts (past ++ [scene]) = posts past ++ [letter] := by
  simp [posts, h]

theorem ozoneTaken_concat (past : List Scene) (scene : Scene) :
    ozoneTaken (past ++ [scene]) = ozoneTaken past ++ scene.ozoneLetters := by
  simp [ozoneTaken]

theorem targetTaken_concat (past : List Scene) (scene : Scene) :
    targetTaken (past ++ [scene]) = targetTaken past ++ scene.targetLetters := by
  simp [targetTaken]

theorem ozoneLetters_none {scene : Scene} (h : scene.ozoneEvent? = none) :
    scene.ozoneLetters = [] := by
  simp [Scene.ozoneLetters, h]

theorem targetLetters_none {scene : Scene} (h : scene.temperatureEvent? = none) :
    scene.targetLetters = [] := by
  simp [Scene.targetLetters, h]

/-!
## Letters of the two channels
-/

theorem mem_ozonePosts {past : List Scene} {letter : Letter Ozone.Command} :
    letter ∈ ozonePosts past ↔ ⟨.ozone letter.command, letter.ticket⟩ ∈ posts past := by
  rw [ozonePosts, List.mem_filterMap]
  constructor
  · rintro ⟨⟨order, ticket⟩, hPost, hOzone⟩
    cases order with
    | ozone command =>
        cases hOzone
        exact hPost
    | target command => cases hOzone
  · intro hPost
    exact ⟨_, hPost, rfl⟩

theorem mem_targetPosts {past : List Scene} {letter : Letter Temperature.Command} :
    letter ∈ targetPosts past ↔ ⟨.target letter.command, letter.ticket⟩ ∈ posts past := by
  rw [targetPosts, List.mem_filterMap]
  constructor
  · rintro ⟨⟨order, ticket⟩, hPost, hTarget⟩
    cases order with
    | ozone command => cases hTarget
    | target command =>
        cases hTarget
        exact hPost
  · intro hPost
    exact ⟨_, hPost, rfl⟩

theorem posts_unique {past : List Scene} (hDistinct : ((posts past).map Letter.ticket).Nodup)
    {first second : Letter Console.Order} (hFirst : first ∈ posts past)
    (hSecond : second ∈ posts past) (hSame : first.ticket = second.ticket) : first = second :=
  List.inj_on_of_nodup_map hDistinct hFirst hSecond hSame

theorem tickets_apart {past : List Scene} (hDistinct : ((posts past).map Letter.ticket).Nodup)
    {ticket : Nat} (hOzone : ticket ∈ (ozonePosts past).map Letter.ticket) :
    ticket ∉ (targetPosts past).map Letter.ticket := by
  intro hTarget
  rcases List.mem_map.mp hOzone with ⟨ozone, hOzonePost, hOzoneTicket⟩
  rcases List.mem_map.mp hTarget with ⟨target, hTargetPost, hTargetTicket⟩
  have hSame := posts_unique hDistinct (mem_ozonePosts.mp hOzonePost)
    (mem_targetPosts.mp hTargetPost) (hOzoneTicket.trans hTargetTicket.symm)
  injection hSame with hOrder
  cases hOrder

end Monitor
end TubMonitor
