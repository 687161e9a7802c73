import TubMonitor.Proofs.Console.Grammar
import TubMonitor.Proofs.Leak.Pump

/-!
# What the console checks

The console switches the pump on only if it is told to and sees no leak.  It looks when it
makes the call and not when the call comes through, and in between a leak may come to be
shown.
-/

namespace TubMonitor

/-!
## What the console asks
-/

namespace Console

namespace Session

theorem step_command {line : String} {rest : List String} {command : Command}
    (hRead : Command.read line = .ok command) (snapshot : Monitor.Snapshot) :
    (⟨line :: rest, .ready⟩ : Session).step (.next snapshot) =
      (⟨rest, .ready⟩ : Session).execute snapshot command := by
  simp [step, take, read_not_blank hRead, hRead]

/-- Only the command to do so makes the console switch the pump on, and only if it sees no
leak. -/
theorem step_switchesOn {session : Session} {event : Event} {state : Session}
    (h : session.step event = (state, [.call (.sensors (.switch .pump true))])) :
    exists snapshot line rest, event = .next snapshot ∧ session = ⟨line :: rest, .ready⟩ ∧
      Command.read line = .ok (.pump .on) ∧ snapshot.leakPresent = false := by
  rcases session with ⟨lines, phase⟩
  unfold step at h
  split at h
  · next snapshot hPhase =>
      have hReady : phase = .ready := hPhase
      subst hReady
      cases lines with
      | nil => cases h
      | cons line rest =>
          refine ⟨snapshot, line, rest, rfl, rfl, ?_⟩
          simp only [take] at h
          split at h
          · cases h
          · split at h
            · next command hRead =>
                rw [hRead]
                cases command with
                | pump action =>
                    cases action with
                    | on =>
                        refine ⟨rfl, ?_⟩
                        cases hLeak : snapshot.leakPresent with
                        | false => rfl
                        | true => simp [execute, hLeak] at h
                    | off => cases h
                    | status => cases h
                | _ => cases h
            · cases h
  all_goals cases h

end Session
end Console

namespace Monitor

/-!
## Calls that are under way
-/

def isLeaking (s : Monitor) : Bool :=
  s.snapshot.leakPresent

/-- The console has a call under way that switches the pump on. -/
def SwitchingOn (s : Monitor) (pending : Pending) : Prop :=
  s.ConsoleAsks pending ∧ pending.call = .sensors (.switch .pump true)

/-- The console takes the command to switch the pump on, sees no leak and makes the call. -/
structure Checks (scene : Scene) (pending : Pending) : Prop where
  turn : scene.happening = .turn .console
  command : exists line rest, scene.before.console = some ⟨⟨line :: rest, .ready⟩, none⟩ ∧
    Console.Command.read line = .ok (.pump .on)
  dry : scene.before.isLeaking = false
  placed : scene.after.SwitchingOn pending

theorem console_leak (s : Monitor) : (s.happen (.turn .console)).leak = s.leak := by
  have hActs := acts s (.turn .console)
  generalize s.happen (.turn .console) = next at hActs
  cases hActs with
  | aside hAside => exact hAside.leak

theorem checks_dry {scene : Scene} {pending : Pending} (h : Checks scene pending) :
    scene.after.isLeaking = false := by
  rcases scene with ⟨s, happening⟩
  have hTurn : happening = .turn .console := h.turn
  subst hTurn
  show (s.happen (.turn .console)).leak.state.present = false
  rw [console_leak]
  exact h.dry

theorem console_checks {s served next : Monitor} {console : Worker Console.Session}
    {event : Console.Event} {state : Console.Session} {effects : List Console.Effect}
    {pending : Pending} (hNext : s.happen (.turn .console) = next)
    (hConsole : s.console = some console)
    (hEvent : s.consoleEvent? console = some (event, served))
    (hStep : console.state.step event = (state, effects))
    (hActs : ConsoleActs served state effects next) (hOn : next.SwitchingOn pending) :
    Checks ⟨s, .turn .console⟩ pending := by
  have hAfter : (Scene.mk s (.turn .console)).after = next := hNext
  rcases console with ⟨session, under⟩
  rcases hOn.1 with ⟨worker, hWorker, hPending⟩
  cases hActs with
  | @call call hPump =>
      cases hWorker
      cases hPending
      have hCall : call = .sensors (.switch .pump true) := hOn.2
      rw [hCall] at hStep
      rcases Console.Session.step_switchesOn hStep with
        ⟨snapshot, line, rest, rfl, hSession, hRead, hDry⟩
      have hSession : session = ⟨line :: rest, .ready⟩ := hSession
      cases consoleEvent_serves hEvent with
      | next hFree hReady hLines =>
          have hFree : under = none := hFree
          subst hFree hSession
          exact ⟨rfl, ⟨line, rest, hConsole, hRead⟩, hDry, hAfter ▸ hOn⟩
  | none | print _ | sent _ | refused _ =>
      cases hWorker
      cases hPending

theorem switchingOn_happen {s : Monitor} {h : Happening} {pending : Pending}
    (hOn : (s.happen h).SwitchingOn pending) :
    s.SwitchingOn pending ∨ Checks ⟨s, h⟩ pending := by
  have hHappens := happens s h
  generalize hNext : s.happen h = next at hHappens hOn
  have hSame (hConsole : next.console = s.console) : s.SwitchingOn pending := by
    rcases hOn with ⟨⟨console, hAsks, hPending⟩, hCall⟩
    exact ⟨⟨console, hConsole ▸ hAsks, hPending⟩, hCall⟩
  cases hHappens with
  | console hConsole hEvent hStep hActs =>
      exact .inr (console_checks hNext hConsole hEvent hStep hActs hOn)
  | ozone hEvent =>
      left
      apply hSame
      rcases ozoneServes_eq (ozoneEvent_serves hEvent) with ⟨_, _, rfl⟩
      rw [handOzone_console]
  | leak hEvent =>
      left
      apply hSame
      rcases leakServes_eq (leakEvent_serves hEvent) with ⟨_, rfl⟩
      rw [handLeak_console]
  | temperature hEvent =>
      left
      apply hSame
      rcases temperatureServes_eq (temperatureEvent_serves hEvent) with ⟨_, _, rfl⟩
      rw [handTemperature_console]
  | notices hStarted hRunning hActs => cases hActs <;> exact .inl (hSame rfl)
  | start hFresh =>
      left
      apply hSame
      rw [start_fresh hFresh]
      dsimp only
      split <;> rfl
  | cancel => exact .inl (hSame (cancel_console s))
  | sent hSent =>
      rcases (send_ok hSent).2 with ⟨_, _, _, _, _, rfl⟩ | ⟨_, _, _, _, _, rfl⟩
      · exact .inl (hSame rfl)
      · exact .inl (hSame rfl)
  | converse lines => exact absurd hOn.1 (not_consoleAsks_free rfl)
  | leave => exact absurd hOn.1 (not_consoleAsks_none rfl)
  | _ => exact .inl (hSame rfl)

theorem switchingOn_checked {s : Monitor} {pending : Pending} (hSilent : s.console = none)
    (hs : List Happening) (hOn : (s.after hs).SwitchingOn pending) :
    exists before check since, s.scenes hs = before ++ check :: since ∧
      Checks check pending ∧ forall scene, scene ∈ since -> scene.before.SwitchingOn pending := by
  induction hs using List.reverseRecOn with
  | nil => exact absurd hOn.1 (not_consoleAsks_none hSilent)
  | append_singleton hs h ih =>
      rw [after_concat] at hOn
      rw [scenes_concat]
      rcases switchingOn_happen hOn with hBefore | hChecks
      · rcases ih hBefore with ⟨before, check, since, hScenes, hChecks, hSince⟩
        refine ⟨before, check, since ++ [⟨s.after hs, h⟩], by simp [hScenes], hChecks, ?_⟩
        intro scene hScene
        rcases List.mem_append.mp hScene with hEarlier | hLast
        · exact hSince scene hEarlier
        · rw [List.mem_singleton.mp hLast]
          exact hBefore
      · exact ⟨s.scenes hs, _, [], rfl, hChecks, by simp⟩

/-!
## When a leak comes to be shown
-/

/-- Where a leak is shown and was not, there is the last scene in which it came to be. -/
theorem leak_shown {s : Monitor} (hDry : s.isLeaking = false) (hs : List Happening)
    (hWet : (s.after hs).isLeaking = true) :
    exists before onset since, s.scenes hs = before ++ onset :: since ∧
      onset.before.isLeaking = false ∧ onset.after.isLeaking = true ∧
      forall scene, scene ∈ since -> scene.before.isLeaking = true := by
  induction hs using List.reverseRecOn with
  | nil =>
      rw [after_nil, hDry] at hWet
      cases hWet
  | append_singleton hs h ih =>
      rw [after_concat] at hWet
      rw [scenes_concat]
      cases hBefore : (s.after hs).isLeaking with
      | false => exact ⟨s.scenes hs, ⟨s.after hs, h⟩, [], rfl, hBefore, hWet, by simp⟩
      | true =>
          rcases ih hBefore with ⟨before, onset, since, hScenes, hOld, hNew, hSince⟩
          refine ⟨before, onset, since ++ [⟨s.after hs, h⟩], by simp [hScenes], hOld, hNew, ?_⟩
          intro scene hScene
          rcases List.mem_append.mp hScene with hEarlier | hLast
          · exact hSince scene hEarlier
          · rw [List.mem_singleton.mp hLast]
            exact hBefore

end Monitor
end TubMonitor
