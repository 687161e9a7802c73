import TubMonitor.Proofs.Shutdown.Wait

/-!
# Still for good

When the loops of a cancelled monitor have ended and have been waited for, nothing that
can happen moves any of them again: there is no event that they would be handed, and
the monitor cannot be started anew.
-/

namespace TubMonitor
namespace Monitor

/-!
## Once cancelled
-/

/-- A loop is handed something that was not under way. -/
def Scene.begins (scene : Scene) : Bool :=
  scene.ozoneEvent?.any Ozone.Event.begins || scene.leakEvent?.any Leak.Event.begins ||
    scene.temperatureEvent?.any Temperature.Event.begins

theorem isCancelled_happen {s : Monitor} (hCancelled : s.isCancelled = true) (h : Happening) :
    (s.happen h).isCancelled = true := by
  have hActs := acts s h
  generalize hNext : s.happen h = next at hActs
  cases hActs with
  | aside hAside => exact hAside.isCancelled.trans hCancelled
  | ozone hEvent =>
      rcases ozoneServes_eq (ozoneEvent_serves hEvent) with ⟨_, _, rfl⟩
      rwa [handOzone_isCancelled]
  | leak hEvent =>
      rcases leakServes_eq (leakEvent_serves hEvent) with ⟨_, rfl⟩
      rwa [handLeak_isCancelled]
  | temperature hEvent =>
      rcases temperatureServes_eq (temperatureEvent_serves hEvent) with ⟨_, _, rfl⟩
      rwa [handTemperature_isCancelled]
  | start hFresh => simp [isFresh, hCancelled] at hFresh
  | cancel => exact cancel_isCancelled s
  | join _ hOver => exact hCancelled

theorem cancelled_begins {s : Monitor} (hCancelled : s.isCancelled = true) (h : Happening) :
    (Scene.mk s h).begins = false := by
  have hActs := acts s h
  generalize hNext : s.happen h = next at hActs
  unfold Scene.begins
  cases hActs with
  | aside hAside => simp [hAside.ozoneEvent, hAside.leakEvent, hAside.temperatureEvent]
  | ozone hEvent =>
      have hOld := ozoneServes_old (ozoneEvent_serves hEvent) hCancelled
      simp [Scene.ozoneEvent?, Scene.leakEvent?, Scene.temperatureEvent?, hEvent, hOld]
  | leak hEvent =>
      have hOld := leakServes_old (leakEvent_serves hEvent) hCancelled
      simp [Scene.ozoneEvent?, Scene.leakEvent?, Scene.temperatureEvent?, hEvent, hOld]
  | temperature hEvent =>
      have hOld := temperatureServes_old (temperatureEvent_serves hEvent) hCancelled
      simp [Scene.ozoneEvent?, Scene.leakEvent?, Scene.temperatureEvent?, hEvent, hOld]
  | _ => rfl

theorem begins_after_cancel {s : Monitor} (hCancelled : s.isCancelled = true)
    {later : List Happening} {scene : Scene} (hScene : scene ∈ s.scenes later) :
    scene.begins = false := by
  rcases mem_scenes hScene with ⟨first, _, _, hBefore⟩
  have hStill : (s.after first).isCancelled = true :=
    after_invariant (fun next => next.isCancelled = true) hCancelled
      (fun _ h hBefore => isCancelled_happen hBefore h) first
  rw [← hBefore] at hStill
  exact cancelled_begins hStill scene.happening

/-!
## Once the loops have ended
-/

theorem over_idle {s : Monitor} (hOrder : InOrder s) (hOver : s.isOver = true)
    (name : LoopName) : s.turn? name.turn = none := by
  rw [isOver_iff] at hOver
  rw [Option.eq_none_iff_forall_ne_some]
  intro next hTurn
  cases name with
  | ozone =>
      rcases ozoneTurn_cases hTurn with ⟨_, _, hEvent, _⟩
      have ⟨hStarted, hRunning⟩ := ozone_goesOn hOrder (ozoneEvent_serves hEvent)
      simp [hRunning] at hOver
      simp [hStarted] at hOver
  | leak =>
      rcases leakTurn_cases hTurn with ⟨_, _, hEvent, _⟩
      have ⟨hStarted, hRunning⟩ := leak_goesOn hOrder (leakEvent_serves hEvent)
      simp [hStarted, hRunning] at hOver
  | temperature =>
      rcases temperatureTurn_cases hTurn with ⟨_, _, hEvent, _⟩
      have ⟨hStarted, hRunning⟩ := temperature_goesOn hOrder (temperatureEvent_serves hEvent)
      simp [hStarted, hRunning] at hOver
  | notification =>
      rcases noticesTurn_cases hTurn with ⟨hStarted, hRunning, _⟩
      simp [hStarted, hRunning] at hOver

/-- Cancelled, over, and with a panel that has been cleared. -/
structure Shut (s : Monitor) : Prop where
  order : InOrder s
  isCancelled : s.isCancelled = true
  isOver : s.isOver = true
  isJoined : s.isJoined = true
  ozone : s.ozone.state.reset = s.ozone.state
  leak : s.leak.state.reset = s.leak.state
  temperature : s.temperature.state.reset = s.temperature.state

theorem shut_join {s : Monitor} (hOrder : InOrder s) (hCancelled : s.isCancelled = true)
    (hOver : s.isOver = true) : Shut s.join where
  order := join_inOrder hOrder
  isCancelled := hCancelled
  isOver := hOver
  isJoined := rfl
  ozone := rfl
  leak := rfl
  temperature := rfl

theorem join_again {s : Monitor} (hShut : Shut s) : s.join = s := by
  unfold join
  rw [hShut.ozone, hShut.leak, hShut.temperature, ← hShut.isJoined]

/-- No loop has a part in it: calls are the console's, and so is what they change. -/
structure Uneventful (s : Monitor) (h : Happening) (next : Monitor) : Prop where
  idle : forall name : LoopName, s.turn? name.turn = none
  ozone : next.ozone = s.ozone
  leak : next.leak = s.leak
  temperature : next.temperature = s.temperature
  notices : next.notices = s.notices
  isStarted : next.isStarted = s.isStarted
  isJoined : next.isJoined = s.isJoined
  calls : next.calls = s.calls ∨ h = .turn .console
  outside : next.outside = s.outside ∨ h = .turn .console ∨ h = .shift next.outside

theorem cancel_again {s : Monitor} (hCancelled : s.isCancelled = true) : s.cancel = s := by
  have hStale : s.isFresh = false := by simp [isFresh, hCancelled]
  rw [cancel_stale hStale, ← hCancelled]

theorem start_cancelled {s : Monitor} (hCancelled : s.isCancelled = true) :
    s.start = (.error .alreadyStarted, s) :=
  start_stale (by simp [isFresh, hCancelled])

theorem uneventful_of_eq {s next : Monitor} {h : Happening}
    (hIdle : forall name : LoopName, s.turn? name.turn = none)
    (hSame : next.ozone = s.ozone ∧ next.leak = s.leak ∧ next.temperature = s.temperature ∧
      next.notices = s.notices ∧ next.isStarted = s.isStarted ∧
      next.isJoined = s.isJoined ∧ next.calls = s.calls)
    (hOutside : next.outside = s.outside ∨ h = .turn .console ∨ h = .shift next.outside) :
    Uneventful s h next where
  idle := hIdle
  ozone := hSame.1
  leak := hSame.2.1
  temperature := hSame.2.2.1
  notices := hSame.2.2.2.1
  isStarted := hSame.2.2.2.2.1
  isJoined := hSame.2.2.2.2.2.1
  calls := Or.inl hSame.2.2.2.2.2.2
  outside := hOutside

theorem shut_uneventful {s : Monitor} (hShut : Shut s) (h : Happening) :
    Uneventful s h (s.happen h) := by
  have hIdle := over_idle hShut.order hShut.isOver
  have hHappens := happens s h
  generalize hNext : s.happen h = next at hHappens
  cases hHappens with
  | ozone hEvent =>
      have hNone := hIdle .ozone
      simp [LoopName.turn, turn?, ozoneTurn?, hEvent] at hNone
  | leak hEvent =>
      have hNone := hIdle .leak
      simp [LoopName.turn, turn?, leakTurn?, hEvent] at hNone
  | temperature hEvent =>
      have hNone := hIdle .temperature
      simp [LoopName.turn, turn?, temperatureTurn?, hEvent] at hNone
  | notices hStarted hRunning hActs =>
      have hOver := (isOver_iff s).mp hShut.isOver hStarted
      rw [hRunning] at hOver
      cases hOver.2.2.2
  | console hConsole hEvent hStep hActs =>
      rcases consoleEvent_outside hConsole hEvent with ⟨outside, rfl, _⟩
      cases hActs with
      | sent hSent =>
          rcases (send_ok hSent).2 with ⟨_, _, _, _, _, rfl⟩ | ⟨_, _, _, _, _, rfl⟩
          all_goals
            exact ⟨hIdle, rfl, rfl, rfl, rfl, rfl, rfl, Or.inr rfl, Or.inr (Or.inl rfl)⟩
      | _ => exact ⟨hIdle, rfl, rfl, rfl, rfl, rfl, rfl, Or.inr rfl, Or.inr (Or.inl rfl)⟩
  | start hFresh => simp [isFresh, hShut.isCancelled] at hFresh
  | cancel =>
      rw [cancel_again hShut.isCancelled]
      exact uneventful_of_eq hIdle ⟨rfl, rfl, rfl, rfl, rfl, rfl, rfl⟩ (Or.inl rfl)
  | join =>
      rw [join_again hShut]
      exact uneventful_of_eq hIdle ⟨rfl, rfl, rfl, rfl, rfl, rfl, rfl⟩ (Or.inl rfl)
  | sent hSent =>
      rcases (send_ok hSent).2 with ⟨_, _, _, _, _, rfl⟩ | ⟨_, _, _, _, _, rfl⟩
      all_goals exact uneventful_of_eq hIdle ⟨rfl, rfl, rfl, rfl, rfl, rfl, rfl⟩ (Or.inl rfl)
  | shift outside =>
      exact uneventful_of_eq hIdle ⟨rfl, rfl, rfl, rfl, rfl, rfl, rfl⟩ (Or.inr (Or.inr rfl))
  | idle _ | ozoneLine _ | targetLine _ | startRefused _ | joinEarly | refused _ | converse _
    | leave | wait _ =>
      exact uneventful_of_eq hIdle ⟨rfl, rfl, rfl, rfl, rfl, rfl, rfl⟩ (Or.inl rfl)

theorem shut_happen {s : Monitor} (hShut : Shut s) (h : Happening) : Shut (s.happen h) := by
  have hKept := shut_uneventful hShut h
  have hCancelled := isCancelled_happen hShut.isCancelled h
  have hOver : (s.happen h).isOver = true := by
    rw [isOver_iff, hKept.ozone, hKept.leak, hKept.temperature, hKept.notices, hKept.isStarted,
      ← isOver_iff]
    exact hShut.isOver
  exact
    { order := inOrder_happen hShut.order h
      isCancelled := hCancelled
      isOver := hOver
      isJoined := hKept.isJoined.trans hShut.isJoined
      ozone := by rw [hKept.ozone, hShut.ozone]
      leak := by rw [hKept.leak, hShut.leak]
      temperature := by rw [hKept.temperature, hShut.temperature] }

theorem shut_after {s : Monitor} (hShut : Shut s) (later : List Happening) :
    Shut (s.after later) :=
  after_invariant Shut hShut (fun _ h hBefore => shut_happen hBefore h) later

theorem shut_scenes {s : Monitor} (hShut : Shut s) {later : List Happening} {scene : Scene}
    (hScene : scene ∈ s.scenes later) :
    Uneventful scene.before scene.happening scene.after := by
  rcases mem_scenes hScene with ⟨first, _, _, hBefore⟩
  have hStill := shut_after hShut first
  rw [← hBefore] at hStill
  exact shut_uneventful hStill scene.happening

/-!
## What can be seen of it
-/

theorem shut_blank {s : Monitor} (hShut : Shut s) : s.snapshot = Snapshot.blank := by
  unfold snapshot
  rw [← hShut.ozone, ← hShut.leak, ← hShut.temperature]
  rfl

theorem wait_again {s : Monitor} (hShut : Shut s) (hQuiet : s.isQuiet = true) :
    s.cancelAndWait = s := by
  have hSettled : ({ s with now := s.now } : Monitor).settle = s := settle_quiet hQuiet
  rw [cancelAndWait, cancel_again hShut.isCancelled, run, hSettled, if_pos hShut.isOver,
    join_again hShut]

end Monitor
end TubMonitor
