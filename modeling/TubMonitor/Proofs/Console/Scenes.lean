import TubMonitor.Proofs.Mail.Honesty

/-!
# What happens to the console

All that can happen, as far as a console is concerned that nobody takes away: it is left
alone, or it takes its turn.  Its turn leaves the loops as they are.
-/

namespace TubMonitor
namespace Monitor

/-- The console stays, with the lines that it has been given. -/
def Happening.keepsConsole : Happening -> Bool
  | .converse _ => false
  | .leave => false
  | _ => true

def Scene.consoleEvent? (scene : Scene) : Option Console.Event :=
  match scene.happening with
  | .turn .console =>
      scene.before.console.bind fun console =>
        (scene.before.consoleEvent? console).map Prod.fst
  | _ => none

def Scene.consoleEffects (scene : Scene) : List Console.Effect :=
  match scene.before.console, scene.consoleEvent? with
  | some console, some event => (console.state.step event).2
  | _, _ => []

def consoleTurns (past : List Scene) : List Scene :=
  past.filter fun scene => scene.consoleEvent?.isSome

/-!
## The inversion
-/

structure ConsoleApart (s : Monitor) (h : Happening) (next : Monitor) : Prop where
  console : next.console = s.console
  consoleTicket : next.consoleTicket = s.consoleTicket
  printed : next.printed = s.printed
  event : (Scene.mk s h).consoleEvent? = none

structure ConsoleMoves (s : Monitor) (worker : Worker Console.Session) (event : Console.Event)
    (result : Console.Session × List Console.Effect) (served next : Monitor) : Prop where
  console : s.console = some worker
  scene : (Scene.mk s (.turn .console)).consoleEvent? = some event
  serves : ConsoleServes s worker event served
  step : worker.state.step event = result
  effects : (Scene.mk s (.turn .console)).consoleEffects = result.2
  order : (Scene.mk s (.turn .console)).order? = orderIn result.2
  acts : ConsoleActs served result.1 result.2 next

inductive ConsoleHappens (s : Monitor) : Happening -> Monitor -> Prop where
  | apart {h : Happening} {next : Monitor} (hApart : ConsoleApart s h next) :
      ConsoleHappens s h next
  | moves {console : Worker Console.Session} {event : Console.Event}
      {result : Console.Session × List Console.Effect} {served next : Monitor}
      (hMoves : ConsoleMoves s console event result served next) :
      ConsoleHappens s (.turn .console) next

theorem handOzone_console_apart (s : Monitor) (event : Ozone.Event) :
    (s.handOzone event).consoleTicket = s.consoleTicket ∧
      (s.handOzone event).printed = s.printed := by
  simp only [handOzone_eq]
  split <;> exact ⟨rfl, rfl⟩

theorem handTemperature_console_apart (s : Monitor) (event : Temperature.Event) :
    (s.handTemperature event).consoleTicket = s.consoleTicket ∧
      (s.handTemperature event).printed = s.printed := by
  simp only [handTemperature_eq]
  split <;> exact ⟨rfl, rfl⟩

theorem start_console_apart {s : Monitor} (hFresh : s.isFresh = true) :
    ConsoleApart s .start s.start.2 := by
  rw [start_fresh hFresh]
  dsimp only
  split <;> exact ⟨rfl, rfl, rfl, rfl⟩

theorem idle_consoleEvent {s : Monitor} {turn : Turn} (hIdle : s.turn? turn = none) :
    (Scene.mk s (.turn turn)).consoleEvent? = none := by
  cases turn with
  | console =>
      change s.consoleTurn? = none at hIdle
      show (s.console.bind fun console => (s.consoleEvent? console).map Prod.fst) = none
      unfold consoleTurn? at hIdle
      cases hConsole : s.console with
      | none => rfl
      | some console =>
          simp only [hConsole, Option.map_eq_none_iff] at hIdle
          simp [hIdle]
  | _ => rfl

theorem console_moves {s served next : Monitor} {console : Worker Console.Session}
    {event : Console.Event} {state : Console.Session} {effects : List Console.Effect}
    (hConsole : s.console = some console)
    (hEvent : s.consoleEvent? console = some (event, served))
    (hStep : console.state.step event = (state, effects))
    (hActs : ConsoleActs served state effects next) :
    ConsoleMoves s console event (state, effects) served next where
  console := hConsole
  scene := by simp [Scene.consoleEvent?, hConsole, hEvent]
  serves := consoleEvent_serves hEvent
  step := hStep
  effects := by simp [Scene.consoleEffects, Scene.consoleEvent?, hConsole, hEvent, hStep]
  order := by simp [Scene.order?, consoleOrder?, hConsole, hEvent, hStep]
  acts := hActs

theorem console_happens {s : Monitor} {h : Happening} (hKeeps : h.keepsConsole = true) :
    ConsoleHappens s h (s.happen h) := by
  have hHappens := happens s h
  generalize s.happen h = next at hHappens
  cases hHappens with
  | idle hIdle => exact .apart ⟨rfl, rfl, rfl, idle_consoleEvent hIdle⟩
  | @ozone event served hEvent =>
      rcases handOzone_console_apart served event with ⟨hTicket, hPrinted⟩
      rcases ozoneServes_eq (ozoneEvent_serves hEvent) with ⟨_, _, rfl⟩
      exact .apart ⟨by simp, hTicket, hPrinted, rfl⟩
  | leak hEvent =>
      rcases leakServes_eq (leakEvent_serves hEvent) with ⟨_, rfl⟩
      rw [handLeak_eq]
      exact .apart ⟨rfl, rfl, rfl, rfl⟩
  | @temperature event served hEvent =>
      rcases handTemperature_console_apart served event with ⟨hTicket, hPrinted⟩
      rcases temperatureServes_eq (temperatureEvent_serves hEvent) with ⟨_, _, rfl⟩
      exact .apart ⟨by simp, hTicket, hPrinted, rfl⟩
  | notices hStarted hRunning hActs => cases hActs <;> exact .apart ⟨rfl, rfl, rfl, rfl⟩
  | console hConsole hEvent hStep hActs =>
      exact .moves (console_moves hConsole hEvent hStep hActs)
  | start hFresh => exact .apart (start_console_apart hFresh)
  | cancel =>
      rcases cancel_eq s with ⟨_, _, _, hCancel⟩
      rw [hCancel]
      exact .apart ⟨rfl, rfl, rfl, rfl⟩
  | sent hSent =>
      rcases (send_ok hSent).2 with ⟨_, _, _, _, _, rfl⟩ | ⟨_, _, _, _, _, rfl⟩
      · exact .apart ⟨rfl, rfl, rfl, rfl⟩
      · exact .apart ⟨rfl, rfl, rfl, rfl⟩
  | converse lines => cases hKeeps
  | leave => cases hKeeps
  | _ => exact .apart ⟨rfl, rfl, rfl, rfl⟩

theorem consoleTurns_apart (past : List Scene) {scene : Scene} (h : scene.consoleEvent? = none) :
    consoleTurns (past ++ [scene]) = consoleTurns past := by
  simp [consoleTurns, h]

theorem consoleTurns_moves (past : List Scene) {scene : Scene} {event : Console.Event}
    (h : scene.consoleEvent? = some event) :
    consoleTurns (past ++ [scene]) = consoleTurns past ++ [scene] := by
  simp [consoleTurns, h]

theorem turn_of_event {scene : Scene} {event : Console.Event}
    (h : scene.consoleEvent? = some event) : scene.happening = .turn .console := by
  rcases scene with ⟨s, happening⟩
  cases happening with
  | turn turn =>
      cases turn with
      | console => rfl
      | _ => cases h
  | _ => cases h

theorem order_of_effects {scene : Scene} {order : Console.Order}
    (h : scene.consoleEffects = [.order order]) : scene.order? = some order := by
  rcases scene with ⟨s, happening⟩
  cases hEvent : (Scene.mk s happening).consoleEvent? with
  | none => simp [Scene.consoleEffects, hEvent] at h
  | some event =>
      have hTurn : happening = .turn .console := turn_of_event hEvent
      subst hTurn
      have hHappens := console_happens (s := s) (h := .turn .console) rfl
      generalize s.happen (.turn .console) = next at hHappens
      cases hHappens with
      | apart hApart =>
          rw [hApart.event] at hEvent
          cases hEvent
      | moves hMoves => rw [hMoves.order, ← hMoves.effects, h, orderIn]

/-!
## The loops
-/

theorem consoleActs_notices {s next : Monitor} {state : Console.Session}
    {effects : List Console.Effect} (h : ConsoleActs s state effects next) :
    next.notices = s.notices := by
  cases h with
  | sent hSent =>
      rcases (send_ok hSent).2 with ⟨_, _, _, _, _, rfl⟩ | ⟨_, _, _, _, _, rfl⟩
      · rfl
      · rfl
  | _ => rfl

theorem consoleServes_notices {s served : Monitor} {console : Worker Console.Session}
    {event : Console.Event} (h : ConsoleServes s console event served) :
    served.notices = s.notices := by
  cases h <;> rfl

/-- What the console does ends no loop and does not stop the monitor. -/
theorem console_spares {scene : Scene} (hTurn : scene.consoleEvent?.isSome = true) :
    scene.after.running = scene.before.running ∧
      scene.after.isCancelled = scene.before.isCancelled := by
  rcases scene with ⟨s, h⟩
  rcases Option.isSome_iff_exists.mp hTurn with ⟨event, hEvent⟩
  have hCourse : h = .turn .console := turn_of_event hEvent
  subst hCourse
  have hHappens := console_happens (s := s) (h := .turn .console) rfl
  have hActs := acts s (.turn .console)
  show (s.happen (.turn .console)).running = s.running ∧
    (s.happen (.turn .console)).isCancelled = s.isCancelled
  generalize s.happen (.turn .console) = next at hHappens hActs
  have hNotices : next.notices = s.notices := by
    cases hHappens with
    | apart hApart =>
        rw [hApart.event] at hEvent
        cases hEvent
    | moves hMoves =>
        exact (consoleActs_notices hMoves.acts).trans (consoleServes_notices hMoves.serves)
  cases hActs with
  | aside hAside =>
      refine ⟨?_, hAside.isCancelled⟩
      have hEnded (name : LoopName) : next.hasEnded name = s.hasEnded name := by
        cases name <;>
          simp [hasEnded, hAside.ozone, hAside.leak, hAside.temperature, hNotices]
      simp [running, hAside.isStarted, hEnded]

end Monitor
end TubMonitor
