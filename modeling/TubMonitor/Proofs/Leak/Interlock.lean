import TubMonitor.Proofs.Leak.Checks

/-!
# The law of the leak and the pump

The console does not switch the pump on while a leak is shown, and what has been switched
off stays off until the leak is over.  Only a call of the console that was made before the
leak was shown can still come through and switch the pump on.
-/

namespace TubMonitor
namespace Monitor

/-!
## Calls that come late
-/

theorem parted_first {α : Type} {first second before since : List α} {x : α}
    (h : first ++ second = before ++ x :: since) (hOther : x ∉ second) :
    exists between, first = before ++ x :: between ∧ since = between ++ second := by
  rcases List.append_eq_append_iff.mp h with ⟨between, hBefore, hSecond⟩ | ⟨between, hFirst, hSince⟩
  · exact absurd (hSecond ▸ List.mem_append_right _ List.mem_cons_self) hOther
  · cases between with
    | nil =>
        rw [List.nil_append] at hSince
        exact absurd (hSince ▸ List.mem_cons_self) hOther
    | cons y between =>
        rcases List.cons.inj hSince with ⟨rfl, rfl⟩
        exact ⟨between, hFirst, rfl⟩

def Wet (scenes : List Scene) : Prop :=
  forall scene, scene ∈ scenes -> scene.before.isLeaking = true

/-- The call is under way when each of the scenes begins. -/
def UnderWay (pending : Pending) (scenes : List Scene) : Prop :=
  forall scene, scene ∈ scenes -> scene.before.SwitchingOn pending

/--
The console saw no leak and called, before the pump was switched off, and its call comes
through afterwards.
-/
inductive Late (check : Scene) (between : List Scene) (off : Scene) : List Scene -> Prop where
  | intro {pending : Pending} {earlier later : List Scene} {on : Scene}
      (hChecks : Checks check pending)
      (hUnderWay : UnderWay pending (between ++ off :: (earlier ++ [on])))
      (hTurn : on.happening = .turn .console) (hOn : on.pumped? = some (true, .ok ())) :
      Late check between off (earlier ++ on :: later)

/--
What is on although it has been switched off while the leak was shown, a late call has
switched on.
-/
theorem late_of_on {s : Monitor} {hs : List Happening} {first since : List Scene} {off : Scene}
    (hOrder : InOrder s) (hSilent : s.console = none)
    (hUnmeddled : forall scene, scene ∈ s.scenes hs -> Unmeddled scene)
    (hScenes : s.scenes hs = first ++ off :: since)
    (hOff : off.pumped? = some (false, .ok ())) (hWet : Wet (off :: since))
    (hOn : (s.after hs).pump? ≠ some false) :
    exists before check between, first = before ++ check :: between ∧
      Late check between off since := by
  rcases scenes_parted hScenes with ⟨opening, rest, rfl, rfl, hBefore, rfl⟩
  have hReached : s.after (opening ++ off.happening :: rest) = off.after.after rest := by
    rw [after_append, after_cons, ← hBefore]
    rfl
  rw [hReached] at hOn
  rw [hScenes] at hUnmeddled
  have hLater := off_until_on (pump?_switched hOff) rest fun scene hScene =>
    hUnmeddled scene (List.mem_append_right _ (List.mem_cons_of_mem _ hScene))
  rcases hLater with hStill | ⟨earlier, on, later, hRest, hCome⟩
  · exact absurd hStill hOn
  -- The state that the late call finds is the end of a course of its own.
  have hPast : s.scenes (opening ++ off.happening :: rest) =
      (s.scenes opening ++ off :: earlier) ++ on :: later := by
    rw [hScenes, hRest]
    simp
  rcases scenes_parted hPast with ⟨course, _, _, hCourse, hMoment, _⟩
  have hOrderOn : InOrder on.before := hMoment ▸ inOrder_after hOrder course
  rcases switched_by_console hOrderOn hCome with ⟨hTurn, pending, hAsks, hCall⟩
  have hAtOn : on.before.SwitchingOn pending := ⟨hAsks, hCall⟩
  rcases switchingOn_checked hSilent course (hMoment ▸ hAtOn) with
    ⟨before, check, under, hUnder, hChecks, hAll⟩
  rw [hRest] at hWet ⊢
  have hNotLater : check ∉ off :: earlier := by
    intro hMem
    have hLeaking := hWet check (List.mem_append_left (on :: later) hMem)
    rw [hChecks.dry] at hLeaking
    cases hLeaking
  rcases parted_first (hCourse.trans hUnder) hNotLater with ⟨between, hFirst, rfl⟩
  refine ⟨before, check, between, hFirst, .intro hChecks ?_ hTurn hCome⟩
  intro scene hScene
  have hSplit : between ++ off :: (earlier ++ [on]) = (between ++ off :: earlier) ++ [on] := by
    simp
  rcases List.mem_append.mp (hSplit ▸ hScene) with hEarlier | hLast
  · exact hAll scene hEarlier
  · rw [List.mem_singleton.mp hLast]
    exact hAtOn

/-- The leak came to be shown between the call and the switching off. -/
theorem late_onset {s : Monitor} {hs : List Happening} {before between since : List Scene}
    {check off : Scene} (hFirst : s.scenes hs = before ++ check :: between)
    (hBefore : off.before = s.after hs) (hWet : off.before.isLeaking = true)
    (hLate : Late check between off since) :
    exists early onset late, between = early ++ onset :: late ∧
      onset.before.isLeaking = false ∧ onset.after.isLeaking = true ∧ Wet late := by
  rcases scenes_parted hFirst with ⟨opening, rest, rfl, _, hCheck, rfl⟩
  have hReached : s.after (opening ++ check.happening :: rest) = check.after.after rest := by
    rw [after_append, after_cons, ← hCheck]
    rfl
  rw [hBefore, hReached] at hWet
  cases hLate with
  | intro hChecks hUnderWay hTurn hOn => exact leak_shown (checks_dry hChecks) rest hWet

theorem underWay_onset {first between before under since : List Scene}
    {onset check off : Scene} (hFirst : first ++ onset :: between = before ++ check :: under)
    (hShown : onset.after.isLeaking = true) (hWet : Wet between)
    (hLate : Late check under off since) :
    exists pending, onset.before.SwitchingOn pending := by
  cases hLate with
  | @intro pending earlier later on hChecks hUnderWay hTurn hOn =>
      have hEarlier : check ∉ onset :: between := by
        intro hMem
        rcases List.mem_cons.mp hMem with rfl | hBetween
        · rw [checks_dry hChecks] at hShown
          cases hShown
        · have hLeaking := hWet check hBetween
          rw [hChecks.dry] at hLeaking
          cases hLeaking
      rcases parted_first hFirst hEarlier with ⟨rest, _, rfl⟩
      refine ⟨pending, hUnderWay onset ?_⟩
      simp

/-!
## The law
-/

/-- What the leak loop is told of its switching off is how that comes out. -/
theorem pumped?_halted {s served : Monitor} {outcome : Except Fault Unit} (hOrder : InOrder s)
    (h : s.leakEvent? = some (.reply (.sensors (.switched outcome)), served)) :
    (Scene.mk s (.turn .leak)).pumped? = some (false, outcome) := by
  generalize hReply : Leak.Event.reply (.sensors (.switched outcome)) = event at h
  cases leakEvent_serves h with
  | @reply pending hPending hDue =>
      have hAnswer := Leak.Event.reply.inj hReply
      have hFits := answer_fits s.outside s.now pending.call
      have hExpects := hOrder.leak.expects
      rw [hPending, Option.map_some] at hExpects
      have hCall : pending.call = .sensors (.switch .pump false) := by
        rw [← hAnswer] at hFits
        generalize pending.call = call at hFits hExpects
        cases hFits
        cases hExpects
        rfl
      rw [hCall] at hAnswer
      simp [Scene.pumped?, Scene.answered?, Monitor.answered?, hPending, reply?, hDue, hCall,
        ← hAnswer]
  | _ => cases hReply

/-- How the pump stands to the leak that is shown, after what has happened. -/
structure Interlocked (past : List Scene) (s : Monitor) : Prop where
  /-- While a leak is shown, the command to switch the pump on is answered and no more. -/
  refused : forall line rest, s.console = some ⟨⟨line :: rest, .ready⟩, none⟩ ->
    Console.Command.read line = .ok (.pump .on) -> s.isLeaking = true ->
      s.happen (.turn .console) =
        { s with
          console := some ⟨⟨rest, .ready⟩, none⟩
          printed := Console.Session.leakText :: s.printed }
  /-- When the leak loop has switched the pump off, it is off. -/
  halted : forall scene served, scene ∈ past -> scene.happening = .turn .leak ->
    scene.before.leakEvent? = some (.reply (.sensors (.switched (.ok ()))), served) ->
      scene.pumped? = some (false, .ok ()) ∧ scene.after.pump? = some false
  /-- What is on nevertheless, a call has switched on that found no leak. -/
  late : forall first off since, past = first ++ off :: since ->
    off.pumped? = some (false, .ok ()) -> Wet (off :: since) -> s.pump? ≠ some false ->
      exists before check early onset late,
        first = before ++ check :: (early ++ onset :: late) ∧
          onset.before.isLeaking = false ∧ onset.after.isLeaking = true ∧ Wet late ∧
          Late check (early ++ onset :: late) off since
  /-- Where there was no such call when the leak was first shown, the pump is off. -/
  safe : forall first onset between off since,
    past = first ++ onset :: (between ++ off :: since) ->
      (forall pending, ¬ onset.before.SwitchingOn pending) ->
        onset.after.isLeaking = true -> Wet (between ++ off :: since) ->
          off.pumped? = some (false, .ok ()) -> s.pump? = some false

theorem refused_wet {s : Monitor} {line : String} {rest : List String}
    (hConsole : s.console = some ⟨⟨line :: rest, .ready⟩, none⟩)
    (hRead : Console.Command.read line = .ok (.pump .on)) (hWet : s.isLeaking = true) :
    s.happen (.turn .console) =
      { s with
        console := some ⟨⟨rest, .ready⟩, none⟩
        printed := Console.Session.leakText :: s.printed } := by
  have hLeak : s.snapshot.leakPresent = true := hWet
  simp [happen, turn?, consoleTurn?, hConsole, consoleEvent?, handConsole, carryOutConsole,
    Console.Session.step_command hRead, Console.Session.execute, hLeak]

/--
The law, for every course in which nobody but the monitor switches the pump, whatever the
readings, the failures and the delays are.
-/
theorem interlock_law {config : Config} {now : Nat} {outside : Outside}
    {sink : Option Notice.Sink} {hs : List Happening}
    (hUnmeddled : forall scene, scene ∈ (assemble config now outside sink).scenes hs ->
      Unmeddled scene) :
    Interlocked ((assemble config now outside sink).scenes hs)
      ((assemble config now outside sink).after hs) := by
  have hOrder : InOrder (assemble config now outside sink) :=
    inOrder_assemble config now outside sink
  generalize hOrigin : assemble config now outside sink = origin at hUnmeddled hOrder ⊢
  have hSilent : origin.console = none := by rw [← hOrigin]; rfl
  constructor
  case refused => exact fun line rest hConsole hRead hWet => refused_wet hConsole hRead hWet
  case halted =>
    rintro ⟨before, happening⟩ served hScene rfl hEvent
    rcases mem_scenes hScene with ⟨first, _, _, hBefore⟩
    have hBefore : before = origin.after first := hBefore
    subst hBefore
    have hOff := pumped?_halted (inOrder_after hOrder first) hEvent
    exact ⟨hOff, pump?_switched hOff⟩
  case late =>
    intro first off since hPast hOff hWet hOn
    rcases late_of_on hOrder hSilent hUnmeddled hPast hOff hWet hOn with
      ⟨before, check, between, rfl, hLate⟩
    rcases scenes_parted hPast with ⟨opening, _, _, hFirst, hBefore, _⟩
    rcases late_onset hFirst.symm hBefore (hWet off List.mem_cons_self) hLate with
      ⟨early, onset, late, rfl, hDry, hShown, hShows⟩
    exact ⟨before, check, early, onset, late, rfl, hDry, hShown, hShows, hLate⟩
  case safe =>
    intro first onset between off since hPast hFree hShown hWet hOff
    have hParted : origin.scenes hs = (first ++ onset :: between) ++ off :: since := by
      simpa using hPast
    have hSince : Wet (off :: since) := fun scene hMem =>
      hWet scene (List.mem_append_right _ hMem)
    have hBetween : Wet between := fun scene hMem => hWet scene (List.mem_append_left _ hMem)
    by_contra hOn
    rcases late_of_on hOrder hSilent hUnmeddled hParted hOff hSince hOn with
      ⟨before, check, under, hFirst, hLate⟩
    rcases underWay_onset hFirst hShown hBetween hLate with ⟨pending, hUnderWay⟩
    exact hFree pending hUnderWay

instance (scene : Scene) : Decidable (Unmeddled scene) :=
  inferInstanceAs (Decidable (_ -> _))

def leakingTub : Outside where
  bank := .tub { Sensors.Tub.standard with leak := true }
  store := .memory .empty
  conditions := { Conditions.fair with delay := fun kind => if kind = .pumpOn then 100 else 0 }

/-- The console calls before the leak is found, and the loop is about to be told that the pump
is off. -/
def calledBefore : List Happening :=
  [ .converse ["pump on"], .turn .console, .start, .turn .leak, .turn .leak ]

theorem interlock_law_calledBefore :
    let origin := assemble ⟨0, 1000, 1.0, 60, "Tub"⟩ 0 leakingTub none
    let off : Scene := ⟨origin.after calledBefore, .turn .leak⟩
    let s := origin.after (calledBefore ++ [.turn .leak, .wait 100, .turn .console])
    off.after.pump? = some false ∧ s.isLeaking = true ∧ s.pump? = some true ∧
      exists before check between, origin.scenes calledBefore = before ++ check :: between ∧
        Late check between off (off.after.scenes [.wait 100, .turn .console]) := by
  intro origin off s
  have hUnmeddled : forall scene,
      scene ∈ origin.scenes (calledBefore ++ [.turn .leak, .wait 100, .turn .console]) ->
        Unmeddled scene := by decide
  have hPast : origin.scenes (calledBefore ++ [.turn .leak, .wait 100, .turn .console]) =
      origin.scenes calledBefore ++ off :: off.after.scenes [.wait 100, .turn .console] := by
    rw [scenes_append]
    rfl
  have hWet : Wet (off :: off.after.scenes [.wait 100, .turn .console]) := by
    unfold Wet
    decide
  have hOff : off.pumped? = some (false, .ok ()) := rfl
  have hLeaking : s.isLeaking = true := by decide
  have hOn : s.pump? = some true := by decide
  have hPowered : s.pump? ≠ some false := by simp [hOn]
  rcases (interlock_law hUnmeddled).late _ _ _ hPast hOff hWet hPowered with
    ⟨before, check, early, onset, late, hFirst, _, _, _, hLate⟩
  exact ⟨pump?_switched hOff, hLeaking, hOn, before, check, _, hFirst, hLate⟩

end Monitor
end TubMonitor
