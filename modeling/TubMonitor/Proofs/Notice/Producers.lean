import TubMonitor.Proofs.Happenings

/-!
# Nobody waits for the queue

Whether a part of the monitor can take its turn, and all that the turn does besides
pushing messages, is the same whatever the queue of the notification loop is like: full,
empty, or over.
-/

namespace TubMonitor
namespace Monitor

def withQueue (s : Monitor) (queue : Notice.Dispatcher) : Monitor :=
  { s with notices := queue }

/-- A turn with another queue is the same turn, except for what it leaves in the queue. -/
def Unhindered (s : Monitor) (turn : Turn) : Prop :=
  forall queue : Notice.Dispatcher, exists left,
    (s.withQueue queue).turn? turn = (s.turn? turn).map fun next => next.withQueue left

theorem reply?_withQueue (s : Monitor) (queue : Notice.Dispatcher) (pending : Pending) :
    (s.withQueue queue).reply? pending =
      (s.reply? pending).map fun served => (served.1, served.2.withQueue queue) := by
  have hSame : (s.withQueue queue).now = s.now ∧
      (s.withQueue queue).outside = s.outside := ⟨rfl, rfl⟩
  simp only [reply?, hSame]
  split <;> rfl

theorem ozoneEvent?_withQueue (s : Monitor) (queue : Notice.Dispatcher) :
    (s.withQueue queue).ozoneEvent? =
      s.ozoneEvent?.map fun served => (served.1, served.2.withQueue queue) := by
  have hSame : (s.withQueue queue).ozone = s.ozone ∧
      (s.withQueue queue).isCancelled = s.isCancelled ∧ (s.withQueue queue).now = s.now ∧
      (s.withQueue queue).ozoneBox = s.ozoneBox := ⟨rfl, rfl, rfl, rfl⟩
  simp only [ozoneEvent?, hSame]
  cases s.ozone.pending with
  | some pending =>
      simp only [reply?_withQueue, Option.map_map]
      rfl
  | none =>
      dsimp only
      split
      · rfl
      · split
        · rfl
        · split
          · rfl
          · rw [Option.map_map]
            rfl

theorem leakEvent?_withQueue (s : Monitor) (queue : Notice.Dispatcher) :
    (s.withQueue queue).leakEvent? =
      s.leakEvent?.map fun served => (served.1, served.2.withQueue queue) := by
  have hSame : (s.withQueue queue).leak = s.leak ∧
      (s.withQueue queue).isCancelled = s.isCancelled ∧
      (s.withQueue queue).isTickDue = s.isTickDue := ⟨rfl, rfl, rfl⟩
  simp only [leakEvent?, hSame]
  cases s.leak.pending with
  | some pending =>
      simp only [reply?_withQueue, Option.map_map]
      rfl
  | none =>
      dsimp only
      split
      · rfl
      · split
        · rfl
        · split <;> rfl

theorem temperatureEvent?_withQueue (s : Monitor) (queue : Notice.Dispatcher) :
    (s.withQueue queue).temperatureEvent? =
      s.temperatureEvent?.map fun served => (served.1, served.2.withQueue queue) := by
  have hSame : (s.withQueue queue).temperature = s.temperature ∧
      (s.withQueue queue).isCancelled = s.isCancelled ∧
      (s.withQueue queue).isTickDue = s.isTickDue ∧
      (s.withQueue queue).targetBox = s.targetBox := ⟨rfl, rfl, rfl, rfl⟩
  simp only [temperatureEvent?, hSame]
  cases s.temperature.pending with
  | some pending =>
      simp only [reply?_withQueue, Option.map_map]
      rfl
  | none =>
      dsimp only
      split
      · rfl
      · split
        · rfl
        · cases s.targetBox.take? with
          | some taken => rfl
          | none =>
              dsimp only
              split <;> rfl

theorem consoleEvent?_withQueue (s : Monitor) (queue : Notice.Dispatcher)
    (console : Worker Console.Session) :
    (s.withQueue queue).consoleEvent? console =
      (s.consoleEvent? console).map fun served => (served.1, served.2.withQueue queue) := by
  have hSame : (s.withQueue queue).snapshot = s.snapshot ∧
      (s.withQueue queue).consoleTicket = s.consoleTicket ∧
      (s.withQueue queue).result? = s.result? := ⟨rfl, rfl, rfl⟩
  simp only [consoleEvent?, hSame]
  cases console.pending with
  | some pending =>
      simp only [reply?_withQueue, Option.map_map]
      rfl
  | none =>
      dsimp only
      split
      · split <;> rfl
      · rw [Option.map_map]
        rfl
      · rfl

theorem send_withQueue (s : Monitor) (queue : Notice.Dispatcher) (order : Console.Order) :
    (s.withQueue queue).send order =
      ((s.send order).1, (s.send order).2.withQueue queue) := by
  cases order with
  | ozone command =>
      simp only [send, sendOzone, withQueue]
      split
      · rfl
      · split <;> rfl
  | target command =>
      simp only [send, sendTarget, withQueue]
      split
      · rfl
      · split <;> rfl

theorem carryOutConsole_withQueue (s : Monitor) (queue : Notice.Dispatcher)
    (pending : Option Pending) (effect : Console.Effect) :
    carryOutConsole (pending, s.withQueue queue) effect =
      ((carryOutConsole (pending, s) effect).1,
        (carryOutConsole (pending, s) effect).2.withQueue queue) := by
  cases effect with
  | print text => rfl
  | call call => rfl
  | order order =>
      simp only [carryOutConsole, send_withQueue]
      rcases s.send order with ⟨fault | ticket, next⟩
      · rfl
      · rfl

theorem foldl_carryOutConsole_withQueue (s : Monitor) (queue : Notice.Dispatcher)
    (pending : Option Pending) (effects : List Console.Effect) :
    effects.foldl carryOutConsole (pending, s.withQueue queue) =
      ((effects.foldl carryOutConsole (pending, s)).1,
        (effects.foldl carryOutConsole (pending, s)).2.withQueue queue) := by
  induction effects generalizing s pending with
  | nil => rfl
  | cons effect rest ih => rw [List.foldl_cons, List.foldl_cons, carryOutConsole_withQueue, ih]

theorem unhindered_turn {α : Type} {event? : Option (α × Monitor)}
    {hand : Monitor -> α -> Monitor} {queue : Notice.Dispatcher}
    (hHand : forall served event, exists left,
      hand (withQueue served queue) event = (hand served event).withQueue left) :
    exists left,
      ((event?.map fun served => (served.1, served.2.withQueue queue)).map
          fun served => hand served.2 served.1) =
        (event?.map fun served => hand served.2 served.1).map
          fun next => next.withQueue left := by
  cases event? with
  | none => exact ⟨queue, rfl⟩
  | some served =>
      rcases hHand served.2 served.1 with ⟨left, hLeft⟩
      exact ⟨left, congrArg some hLeft⟩

theorem unhindered (s : Monitor) {turn : Turn} (hOther : turn ≠ .notices) :
    Unhindered s turn := by
  intro queue
  cases turn with
  | notices => exact absurd rfl hOther
  | ozone =>
      show exists left, (s.withQueue queue).ozoneTurn? = s.ozoneTurn?.map _
      unfold ozoneTurn?
      rw [ozoneEvent?_withQueue]
      refine unhindered_turn fun served event => ?_
      simp only [handOzone_eq, withQueue]
      split
      · exact ⟨_, rfl⟩
      · exact ⟨_, rfl⟩
  | leak =>
      show exists left, (s.withQueue queue).leakTurn? = s.leakTurn?.map _
      unfold leakTurn?
      rw [leakEvent?_withQueue]
      refine unhindered_turn fun served event => ?_
      simp only [handLeak_eq, withQueue]
      exact ⟨_, rfl⟩
  | temperature =>
      show exists left, (s.withQueue queue).temperatureTurn? = s.temperatureTurn?.map _
      unfold temperatureTurn?
      rw [temperatureEvent?_withQueue]
      refine unhindered_turn fun served event => ?_
      simp only [handTemperature_eq, withQueue]
      split
      · exact ⟨_, rfl⟩
      · exact ⟨_, rfl⟩
  | ozoneLine =>
      refine ⟨queue, ?_⟩
      show (s.withQueue queue).ozoneLineTurn? = s.ozoneLineTurn?.map _
      unfold ozoneLineTurn?
      rw [Option.map_map]
      rfl
  | targetLine =>
      refine ⟨queue, ?_⟩
      show (s.withQueue queue).targetLineTurn? = s.targetLineTurn?.map _
      unfold targetLineTurn?
      rw [Option.map_map]
      rfl
  | console =>
      refine ⟨queue, ?_⟩
      show (s.withQueue queue).consoleTurn? = s.consoleTurn?.map _
      have hSame : (s.withQueue queue).console = s.console := rfl
      unfold consoleTurn?
      rw [hSame]
      cases s.console with
      | none => rfl
      | some console =>
          dsimp only
          rw [consoleEvent?_withQueue, Option.map_map, Option.map_map]
          congr 1
          funext served
          simp only [Function.comp_apply, handConsole, foldl_carryOutConsole_withQueue]
          rfl

end Monitor
end TubMonitor
