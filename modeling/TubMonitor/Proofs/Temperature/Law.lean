import TubMonitor.Proofs.Isolation.Sessions
import TubMonitor.Proofs.Ozone.Mirror
import TubMonitor.Proofs.Shutdown.Stillness
import TubMonitor.Proofs.Temperature.Samples
import TubMonitor.Proofs.Temperature.Scenes

/-!
# The law of targets

The temperature loop serves commands and takes samples.  A sample says that the water has
reached the target if and only if it is the first one to reach it since it was armed, and the
panel shows the target as active until then.
-/

namespace TubMonitor

/-!
## A sample
-/

namespace Temperature

open Monitor (notesOf)

variable {s : Sampler} {aim : Aim} {deeds : List Deed}

theorem reached?_unarmed (water : Option Float) (hTarget : s.target = none) :
    s.reached? water = none := by
  unfold Sampler.reached?
  rw [hTarget]
  cases water <;> rfl

/-- A sample reaches a target that none before it has reached. -/
theorem reached?_armed {degrees : Float} {earlier : Bool} (x : Sampling)
    (hTarget : s.target = some ⟨degrees, !earlier⟩) :
    s.reached? x.readings.water.toOption =
      if reaches s.tolerance degrees x && !earlier then
        x.readings.water.toOption.map (·, ⟨degrees, true⟩)
      else
        none := by
  unfold Sampler.reached?
  rw [hTarget]
  cases hWater : x.readings.water with
  | error fault => simp [Except.toOption, reaches, hWater]
  | ok water =>
      have hReaches : Target.isReached ⟨degrees, !earlier⟩ water s.tolerance =
          reaches s.tolerance degrees x := by rw [reaches, hWater]; rfl
      dsimp only [Except.toOption]
      rw [hReaches]
      cases earlier <;> simp

theorem record_target (x : Sampling) (hTarget : s.target = aim.target s.tolerance) :
    let result := s.record x.saved x.readings.room.toOption x.readings.water.toOption
    result.1.target = (aim.next (.sampled x)).target s.tolerance ∧
      notesOf result.2 = aim.tells s.tolerance x := by
  unfold Sampler.record Aim.tells
  unfold Aim.target at hTarget ⊢
  rw [Aim.degrees?_sampled]
  cases hDegrees : aim.degrees? with
  | none =>
      rw [hDegrees] at hTarget
      rw [reached?_unarmed _ hTarget]
      exact ⟨hTarget, rfl⟩
  | some degrees =>
      rw [hDegrees, Option.map_some] at hTarget
      simp only [reached?_armed x hTarget, Option.map_some, Aim.isReached_sampled]
      cases hWater : x.readings.water with
      | error fault =>
          have hNot : reaches s.tolerance degrees x = false := by rw [reaches, hWater]
          simpa [hNot] using hTarget
      | ok water =>
          rw [hTarget]
          simp only [Except.toOption]
          cases aim.isReached s.tolerance degrees <;> cases reaches s.tolerance degrees x <;>
            exact ⟨rfl, rfl⟩

theorem record_tolerance (now : Nat) (room water : Option Float) :
    (s.record now room water).1.tolerance = s.tolerance := by
  simp only [Sampler.record]
  split <;> rfl

/-!
## A move
-/

/-- The target is the one that the deeds of the loop call for. -/
structure Sampler.Aims (s : Sampler) (tolerance : Float) (deeds : List Deed) : Prop where
  fresh : s.phase = .dormant -> deeds = []
  begun : s.phase ≠ .dormant -> s.tolerance = tolerance
  target : s.target = (aimOf deeds).target tolerance

/-- A move completes a deed or adds to what is in hand. -/
structure Advances (tolerance : Float) (now : Nat) (event : Event)
    (result : Sampler × List Monitor.Effect) (deeds : List Deed) (rest : List (Nat × Event))
    (more : List Deed) (left : List (Nat × Event)) : Prop where
  inHand : InHand result.1.phase left
  aims : result.1.Aims tolerance (deeds ++ more)
  events : rest ++ [(now, event)] = more.flatMap Deed.events ++ left
  notes : (notesOf result.2).map (now, ·) = announcements tolerance deeds more

theorem start_inHand (period : Nat) (tolerance : Float) (now : Nat) :
    InHand (Sampler.start period tolerance now).phase [] := by
  simp only [Sampler.start]
  split
  · exact .waiting
  · exact .failed

/-- A sample is complete once it has been saved, or has failed to be. -/
theorem record_advances {tolerance : Float} (x : Sampling) (hBegun : s.phase ≠ .dormant)
    (hAims : s.Aims tolerance deeds) :
    Advances tolerance x.saved (.reply (.store (.sample x.outcome)))
      (s.record x.saved x.readings.room.toOption x.readings.water.toOption) deeds
      [(x.begun, .tick), (x.read, .reply (.sensors (.temperatures x.readings)))]
      [.sampled x] [] := by
  have hTolerance := hAims.begun hBegun
  have hTarget := hAims.target
  rw [← hTolerance] at hTarget
  have hRecord := record_target x hTarget
  have hPhase := Sampler.record_begun s x.saved x.readings.room.toOption x.readings.water.toOption
  refine ⟨?_, ⟨?_, ?_, ?_⟩, rfl, ?_⟩
  · rw [hPhase]
    exact .waiting
  · intro hDormant
    cases hPhase.symm.trans hDormant
  · intro _
    rw [record_tolerance, hTolerance]
  · rw [aimOf_concat, ← hTolerance]
    exact hRecord.1
  · rw [hRecord.2, ← hTolerance]
    simp [announcements, announced]

theorem move_advances {tolerance : Float} {now : Nat} {event : Event}
    {result : Sampler × List Monitor.Effect} {rest : List (Nat × Event)}
    (hMove : Sampler.Move now s event result) (hInHand : InHand s.phase rest)
    (hAims : s.Aims tolerance deeds) :
    exists more left, Advances tolerance now event result deeds rest more left := by
  have hBegun := Sampler.move_begun hMove
  have hTolerance := hAims.begun hBegun.1
  have hFresh {more : List Deed} : result.1.phase = .dormant -> deeds ++ more = [] :=
    fun hPhase => absurd hPhase hBegun.2
  have hTarget : s.target = (aimOf (deeds ++ [])).target tolerance := by
    rw [List.append_nil]
    exact hAims.target
  cases hMove with
  | finished hPhase =>
      rw [hPhase] at hInHand
      cases hInHand
      exact ⟨[], _, .ended now, ⟨hFresh, fun _ => hTolerance, hTarget⟩, rfl, rfl⟩
  | served command ticket hPhase hTicker =>
      rw [hPhase] at hInHand
      cases hInHand
      have hWaiting : InHand (s.serve command).phase [] := by
        rw [Sampler.serve, hPhase]
        exact .waiting
      refine ⟨[.served now command ticket], [], hWaiting, ⟨hFresh, fun _ => hTolerance, ?_⟩, rfl,
        rfl⟩
      rw [aimOf_concat, Aim.target_served]
      rfl
  | ticked hPhase hTicker hDue =>
      rw [hPhase] at hInHand
      cases hInHand
      exact ⟨[], _, .reading now, ⟨hFresh, fun _ => hTolerance, hTarget⟩, rfl, rfl⟩
  | read readings hPhase hTicker =>
      rw [hPhase] at hInHand
      cases hInHand with
      | reading begun =>
          exact ⟨[], _, .saving begun now readings, ⟨hFresh, fun _ => hTolerance, hTarget⟩, rfl,
            rfl⟩
  | saved outcome hPhase hTicker =>
      rw [hPhase] at hInHand
      cases hInHand with
      | saving begun read readings =>
          exact ⟨_, [], record_advances ⟨begun, read, readings, now, outcome⟩ hBegun.1 hAims⟩

end Temperature

namespace Monitor

open Temperature (Deed Fires InHand Sampler Sampling announced announcements reaches
  reachedText)

/-!
## What has been done
-/

/-- What the temperature loop has been handed, and when. -/
def samplerEvents (past : List Scene) : List (Nat × Temperature.Event) :=
  past.filterMap fun scene => scene.temperatureEvent?.map (scene.before.now, ·)

theorem samplerEvents_none (past : List Scene) {scene : Scene}
    (h : scene.temperatureEvent? = none) :
    samplerEvents (past ++ [scene]) = samplerEvents past := by
  simp [samplerEvents, h]

theorem samplerEvents_some (past : List Scene) {scene : Scene} {event : Temperature.Event}
    (h : scene.temperatureEvent? = some event) :
    samplerEvents (past ++ [scene]) = samplerEvents past ++ [(scene.before.now, event)] := by
  simp [samplerEvents, h]

/-!
## The invariant
-/

/-- The loop has done its deeds and has the rest in hand.  When its panel has been cleared it
does nothing more. -/
structure Tallied (past : List Scene) (s : Monitor) (deeds : List Deed)
    (rest : List (Nat × Temperature.Event)) : Prop where
  events : samplerEvents past = deeds.flatMap Deed.events ++ rest
  notes : attempts .temperature past = announcements s.config.tolerance [] deeds
  inHand : InHand s.temperature.state.phase rest
  aims : Unreset past -> s.temperature.state.Aims s.config.tolerance deeds
  reset : Unreset past ∨ Shut s

section

variable {past : List Scene} {s next : Monitor} {deeds : List Deed}
  {rest : List (Nat × Temperature.Event)}

theorem reset_happen (hOrder : InOrder s) (hReset : Unreset past ∨ Shut s) (h : Happening) :
    Unreset (past ++ [⟨s, h⟩]) ∨ Shut (s.happen h) := by
  cases hResets : (Scene.mk s h).resets with
  | true =>
      right
      cases h with
      | join =>
          have hBoth : (s.isCancelled && s.isOver) = true := hResets
          rw [happen, if_pos hBoth]
          rw [Bool.and_eq_true] at hBoth
          exact shut_join hOrder hBoth.1 hBoth.2
      | _ => cases hResets
  | false =>
      rcases hReset with hUnreset | hShut
      · left
        intro scene hMem
        rcases List.mem_append.mp hMem with hPast | hLast
        · exact hUnreset scene hPast
        · rw [List.mem_singleton.mp hLast]
          exact hResets
      · exact .inr (shut_happen hShut h)

theorem unreset_of_move {event : Temperature.Event} {result : Sampler × List Effect}
    (hMoves : TemperatureMoves s event result next) (hReset : Unreset past ∨ Shut s) :
    Unreset past := by
  rcases hReset with hUnreset | hShut
  · exact hUnreset
  · have hIdle : s.turn? .temperature = none := over_idle hShut.order hShut.isOver .temperature
    have hScene := hMoves.scene
    simp only [turn?, temperatureTurn?, Option.map_eq_none_iff] at hIdle
    simp [Scene.temperatureEvent?, hIdle] at hScene

theorem tallied_quiet {h : Happening} (hTallied : Tallied past s deeds rest)
    (hEvent : (Scene.mk s h).temperatureEvent? = none) (hConfig : next.config = s.config)
    (hInHand : InHand next.temperature.state.phase rest)
    (hAims : Unreset (past ++ [⟨s, h⟩]) ->
      next.temperature.state.Aims s.config.tolerance deeds)
    (hReset : Unreset (past ++ [⟨s, h⟩]) ∨ Shut next) :
    Tallied (past ++ [⟨s, h⟩]) next deeds rest := by
  refine ⟨?_, ?_, hInHand, ?_, hReset⟩
  · rw [samplerEvents_none past hEvent]
    exact hTallied.events
  · rw [attempts_concat, temperature_effects_none hEvent, hConfig, hTallied.notes]
    exact List.append_nil _
  · rw [hConfig]
    exact hAims

theorem aims_start (hFresh : s.isFresh = true)
    (hAims : s.temperature.state.Aims s.config.tolerance deeds)
    (hDormant : s.temperature.state.phase = .dormant) :
    s.start.2.temperature.state.Aims s.config.tolerance deeds := by
  rw [start_temperature_state hFresh, hAims.fresh hDormant]
  exact ⟨fun _ => rfl, fun _ => rfl, rfl⟩

theorem tallied_move {event : Temperature.Event} {result : Sampler × List Effect}
    (hTallied : Tallied past s deeds rest) (hMoves : TemperatureMoves s event result next)
    (hConfig : next.config = s.config)
    (hReset : Unreset (past ++ [⟨s, .turn .temperature⟩]) ∨ Shut next) :
    exists deeds rest, Tallied (past ++ [⟨s, .turn .temperature⟩]) next deeds rest := by
  have hAims := hTallied.aims (unreset_of_move hMoves hTallied.reset)
  rcases Temperature.move_advances hMoves.move hTallied.inHand hAims with ⟨more, left, hAdvances⟩
  refine ⟨deeds ++ more, left, ?_, ?_, ?_, ?_, hReset⟩
  · rw [samplerEvents_some past hMoves.scene, hTallied.events, List.append_assoc,
      hAdvances.events, List.flatMap_append, List.append_assoc]
  · rw [attempts_concat, hMoves.effects, hAdvances.notes, hConfig, hTallied.notes,
      Temperature.announcements_append, List.nil_append]
  · rw [hMoves.state]
    exact hAdvances.inHand
  · intro _
    rw [hMoves.state, hConfig]
    exact hAdvances.aims

theorem tallied_happen (hOrder : InOrder s) (hTallied : Tallied past s deeds rest)
    (h : Happening) : exists deeds rest, Tallied (past ++ [⟨s, h⟩]) (s.happen h) deeds rest := by
  have hReset := reset_happen hOrder hTallied.reset h
  have hConfig := config_happen s h
  have hHappens := temperature_happens hOrder h
  generalize s.happen h = next at hReset hConfig hHappens
  cases hHappens with
  | apart hApart =>
      refine ⟨deeds, rest, tallied_quiet hTallied hApart.event hConfig ?_ ?_ hReset⟩
      · rw [hApart.state]
        exact hTallied.inHand
      · rw [hApart.state]
        exact fun hUnreset => hTallied.aims (unreset_concat hUnreset)
  | start hFresh =>
      have hDormant := temperature_unbegun hOrder hFresh
      have hInHand := hTallied.inHand
      rw [hDormant] at hInHand
      cases hInHand
      refine ⟨deeds, [], tallied_quiet hTallied rfl hConfig ?_ ?_ hReset⟩
      · rw [start_temperature_state hFresh]
        exact Temperature.start_inHand ..
      · intro hUnreset
        exact aims_start hFresh (hTallied.aims (unreset_concat hUnreset)) hDormant
  | move hMoves => exact tallied_move hTallied hMoves hConfig hReset
  | join hCancelled hOver =>
      refine ⟨deeds, rest, tallied_quiet hTallied rfl hConfig hTallied.inHand ?_ hReset⟩
      intro hUnreset
      have hLast := hUnreset _ (List.mem_append_right _ (List.mem_singleton_self _))
      simp [Scene.resets, hCancelled, hOver] at hLast

end

theorem tallied_after (config : Config) (now : Nat) (outside : Outside)
    (sink : Option Notice.Sink) (hs : List Happening) :
    exists deeds rest,
      Tallied ((assemble config now outside sink).scenes hs)
        ((assemble config now outside sink).after hs) deeds rest := by
  have hStart : Tallied [] (assemble config now outside sink) [] [] :=
    { events := rfl
      notes := rfl
      inHand := .dormant
      aims := fun _ => ⟨fun _ => rfl, fun hBegun => absurd rfl hBegun, rfl⟩
      reset := .inl fun _ hMem => absurd hMem List.not_mem_nil }
  refine scenes_invariant (inOrder_assemble config now outside sink) (fun _ => True)
    (fun past s => exists deeds rest, Tallied past s deeds rest) ⟨[], [], hStart⟩ ?_ hs ?_
  · rintro past before h hOrder _ ⟨deeds, rest, hTallied⟩
    exact tallied_happen hOrder hTallied h
  · exact fun _ _ => trivial

/-!
## The law
-/

/--
The law, in every state that can be reached.  Whatever the loop has been handed makes up the
commands that it has served, the samples that it has taken and what it has in hand.  A sample
is announced if and only if it is the first one to reach the target since it was armed, which
is once for each target at most, and never once it has been replaced or taken away.  The
panel shows the target that was armed last, active until a sample has reached it; it is
cleared when the loops have been waited for.
-/
theorem target_law (config : Config) (now : Nat) (outside : Outside)
    (sink : Option Notice.Sink) (hs : List Happening) :
    let past := (assemble config now outside sink).scenes hs
    let s := (assemble config now outside sink).after hs
    exists deeds rest,
      samplerEvents past = deeds.flatMap Deed.events ++ rest ∧
        InHand s.temperature.state.phase rest ∧
        attempts .temperature past = announcements config.tolerance [] deeds ∧
        (forall before x after, deeds = before ++ .sampled x :: after ->
          (forall water degrees, Fires config.tolerance before x water degrees ->
            announced config.tolerance before (.sampled x) =
              [(x.saved, reachedText water degrees)]) ∧
          (announced config.tolerance before (.sampled x) ≠ [] ->
            exists water degrees, Fires config.tolerance before x water degrees)) ∧
        (forall before moment command ticket (since : List Sampling) after,
          deeds = before ++ .served moment command ticket :: since.map .sampled ++ after ->
          exists own,
            attempts .temperature past =
              announcements config.tolerance [] before ++ own ++
                announcements config.tolerance
                  (before ++ .served moment command ticket :: since.map .sampled) after ∧
            own.length =
              if command.any fun degrees => since.any (reaches config.tolerance degrees) then
                1
              else
                0) ∧
        (Unreset past ->
          (forall since : List Sampling, deeds = since.map .sampled ->
            s.snapshot.target = none) ∧
          (forall before moment command ticket (since : List Sampling),
            deeds = before ++ .served moment command ticket :: since.map .sampled ->
            s.snapshot.target = command.map fun degrees =>
              { degrees, active := !since.any (reaches config.tolerance degrees) })) ∧
        (¬ Unreset past -> s.snapshot.target = none) := by
  intro past s
  rcases tallied_after config now outside sink hs with ⟨deeds, rest, hTallied⟩
  have hConfig : s.config = config := config_after (assemble config now outside sink) hs
  have hNotes : attempts .temperature past = announcements config.tolerance [] deeds :=
    hConfig ▸ hTallied.notes
  have hAims (hUnreset : Unreset past) : s.temperature.state.Aims config.tolerance deeds :=
    hConfig ▸ hTallied.aims hUnreset
  refine ⟨deeds, rest, hTallied.events, hTallied.inHand, hNotes, ?_, ?_, ?_, ?_⟩
  · intro before x after _
    exact ⟨fun _ _ => Temperature.announced_of_fires, Temperature.fires_of_announced⟩
  · intro before moment command ticket since after hSplit
    have hAll := Temperature.announcements_served config.tolerance before moment command ticket
      since after
    exact ⟨_, by rw [hNotes, hSplit]; exact hAll, Temperature.announcements_once ..⟩
  · intro hUnreset
    have hTarget := (hAims hUnreset).target
    refine ⟨?_, ?_⟩
    · intro since hDeeds
      rw [hDeeds, Temperature.target_unserved] at hTarget
      exact hTarget
    · intro before moment command ticket since hDeeds
      rw [hDeeds, Temperature.target_since] at hTarget
      exact hTarget
  · intro hReset
    rw [shut_blank (hTallied.reset.resolve_left hReset)]
    rfl

end Monitor
end TubMonitor
