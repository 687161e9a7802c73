import TubMonitor.Proofs.Ozone.Stints

/-!
# The log, phase by phase

Every phase of the ozone loop is one point in the account of its runs.  What is logged
before it are the runs that are over; what is logged last is as much of the next run or
of the end of this one as has been seen through.
-/

namespace TubMonitor
namespace Ozone

open Controller (Move offWarning)
open Monitor (Effect cause)
open Time (instantOf)

/-- What the panel shows while a run begins: the run before, until the next is shown. -/
def Lasting (stints : List Stint) (shown : RunState) : Prop :=
  shown.running = true -> exists earlier t, stints = earlier ++ [t] ∧ shown = t.debut.published

/-- The run that the loop has in its hands is the one that has begun and is shown. -/
structure Current (d : Debut) (run : Run) (shown : RunState) : Prop where
  run : run = d.run
  shown : shown = d.published

theorem Current.deadline {d : Debut} {run : Run} {shown : RunState} (h : Current d run shown) :
    run.deadline = d.deadline := by
  rw [h.run]
  rfl

theorem Current.row {d : Debut} {run : Run} {shown : RunState} (h : Current d run shown) :
    d.row = run.id := by
  rw [h.run]
  rfl

def Accounted (log : Log) (tales : List Tale) (prompt : Prop) (now : Nat) (c : Controller) :
    Prop :=
  match c.phase with
  | .dormant => c.shown.running = false ∧ log = [] ∧ tales = []
  | .loading => c.shown.running = false ∧ tales = [] ∧ exists asked, log = looking asked
  | .securing =>
      c.shown.running = false ∧ tales = [] ∧
        exists asked loaded latest, log = looking asked ++ securing loaded latest
  | .waiting none | .ended =>
      c.shown.running = false ∧ exists stints, Recounted log tales prompt stints [] []
  | .waiting (some run) =>
      exists stints d, Current d run c.shown ∧
        Recounted log tales prompt stints d.lines [⟨d.minutes, none⟩]
  | .switchingOff run ending =>
      exists stints d decided, Current d run c.shown ∧ Timely prompt d ending decided ∧
        Recounted log tales prompt stints (d.lines ++ leaving decided)
          (⟨d.minutes, some ending.status⟩ :: ending.next)
  | .closing run ending id _ =>
      exists stints d decided switched went, Current d run c.shown ∧
        Timely prompt d ending decided ∧ d.row = some id ∧
        Recounted log tales prompt stints
          (d.lines ++ leaving decided ++ answeredOff switched went ++ closing switched id)
          (⟨d.minutes, some ending.status⟩ :: ending.next)
  | .labelling run ending _ =>
      exists stints d decided switched went id closed answer, Current d run c.shown ∧
        Timely prompt d ending decided ∧ d.row = some id ∧
        Recounted log tales prompt stints
          (d.lines ++ leaving decided ++ answeredOff switched went ++ closing switched id ++
            labelling closed answer id ending)
          (⟨d.minutes, some ending.status⟩ :: ending.next)
  | .recording opening =>
      exists stints asked, opening.start = instantOf asked ∧ asked ≤ now ∧
        Lasting stints c.shown ∧
        Recounted log tales prompt stints (filing opening.minutes asked)
          [⟨opening.minutes, none⟩]
  | .switchingOn opening row =>
      exists stints asked filed entry, opening.start = instantOf asked ∧ asked ≤ now ∧
        Lasting stints c.shown ∧ row = entry.toOption.map Entry.id ∧
        Recounted log tales prompt stints
          (filing opening.minutes asked ++ lighting filed entry) [⟨opening.minutes, none⟩]
  | .flagging opening id why =>
      exists stints asked filed entry switched, opening.start = instantOf asked ∧ asked ≤ now ∧
        Lasting stints c.shown ∧ some id = entry.toOption.map Entry.id ∧
        Recounted log tales prompt stints
          (filing opening.minutes asked ++ lighting filed entry ++
            answeredOn switched (.error why) ++ flagging switched id why)
          [⟨opening.minutes, none⟩]

section Accounted

variable {log : Log} {tales : List Tale} {prompt : Prop} {now : Nat} {c : Controller}

theorem accounted_later {still : Prop} {later : Nat} (h : Accounted log tales prompt now c)
    (hNow : now ≤ later) (hStill : still -> prompt) : Accounted log tales still later c := by
  rcases c with ⟨phase, shown⟩
  cases phase with
  | dormant | loading | securing => exact h
  | ended =>
      rcases h with ⟨hOff, stints, hRest⟩
      exact ⟨hOff, stints, recounted_still hStill hRest⟩
  | waiting active =>
      cases active with
      | none =>
          rcases h with ⟨hOff, stints, hRest⟩
          exact ⟨hOff, stints, recounted_still hStill hRest⟩
      | some run =>
          rcases h with ⟨stints, d, hCurrent, hRest⟩
          exact ⟨stints, d, hCurrent, recounted_still hStill hRest⟩
  | switchingOff run ending =>
      rcases h with ⟨stints, d, decided, hCurrent, hTimely, hRest⟩
      exact ⟨stints, d, decided, hCurrent, timely_still hStill hTimely,
        recounted_still hStill hRest⟩
  | closing run ending id stop =>
      rcases h with ⟨stints, d, decided, switched, went, hCurrent, hTimely, hRow, hRest⟩
      exact ⟨stints, d, decided, switched, went, hCurrent, timely_still hStill hTimely, hRow,
        recounted_still hStill hRest⟩
  | labelling run ending stop =>
      rcases h with
        ⟨stints, d, decided, switched, went, id, closed, answer, hCurrent, hTimely, hRow, hRest⟩
      exact ⟨stints, d, decided, switched, went, id, closed, answer, hCurrent,
        timely_still hStill hTimely, hRow, recounted_still hStill hRest⟩
  | recording opening =>
      rcases h with ⟨stints, asked, hStart, hAsked, hLasting, hRest⟩
      exact ⟨stints, asked, hStart, hAsked.trans hNow, hLasting, recounted_still hStill hRest⟩
  | switchingOn opening row =>
      rcases h with ⟨stints, asked, filed, entry, hStart, hAsked, hLasting, hRow, hRest⟩
      exact ⟨stints, asked, filed, entry, hStart, hAsked.trans hNow, hLasting, hRow,
        recounted_still hStill hRest⟩
  | flagging opening id why =>
      rcases h with ⟨stints, asked, filed, entry, switched, hStart, hAsked, hLasting, hRow, hRest⟩
      exact ⟨stints, asked, filed, entry, switched, hStart, hAsked.trans hNow, hLasting, hRow,
        recounted_still hStill hRest⟩

theorem accounted_reset (h : Accounted log tales prompt now c)
    (hOver : c.phase = .dormant ∨ c.phase = .ended) :
    Accounted log tales prompt now c.reset := by
  rcases c with ⟨phase, shown⟩
  rcases hOver with hPhase | hPhase
  all_goals
    cases hPhase
    exact ⟨rfl, h.2⟩

/-!
## The end of a run
-/

theorem accounted_retire {run : Run} {ending : Ending} (h : Accounted log tales prompt now c)
    (hPhase : c.phase = .waiting (some run))
    (hDue : ending = .expired -> run.deadline ≤ now)
    (hLimit : ending = .expired -> prompt -> now ≤ run.deadline)
    (hEarly : ending = .expired ∨ ending = .shutdown ∨ now < run.deadline) :
    Accounted (log ++ leaving now) (tell tales (cause ending)) prompt now
      (c.retire run ending).1 := by
  rcases c with ⟨phase, shown⟩
  cases hPhase
  rcases h with ⟨stints, d, hCurrent, hRest⟩
  rw [hCurrent.deadline] at hDue hLimit hEarly
  have hTimely : Timely prompt d ending now := by
    refine ⟨hDue, ?_, ?_, fun hPrompt hExpired => hLimit hExpired hPrompt⟩
    · rintro ticket rfl
      simpa using hEarly
    · rintro minutes ticket rfl
      simpa using hEarly
  exact ⟨stints, d, now, hCurrent, hTimely, recounted_more _ (recounted_decided ending hRest)⟩

theorem accounted_begin {stints : List Stint} (minutes ticket : Nat)
    (hLasting : Lasting stints c.shown)
    (h : Recounted log tales prompt stints [] [⟨minutes, none⟩]) :
    Accounted (log ++ filing minutes now) tales prompt now (c.begin now minutes ticket).1 :=
  ⟨stints, now, rfl, le_rfl, hLasting, recounted_more _ h⟩

theorem accounted_retired {t : Stint} {run : Run} {stints : List Stint} {rest : Log}
    {stop : Time.Instant} (front : Log) (hCurrent : Current t.debut run c.shown)
    (hTimely : Timely prompt t.debut t.ending t.decided)
    (hLines : rest ++ front ++ [said now (stopNote t.ending)] = t.lines)
    (h : Recounted log tales prompt stints rest (t.tale :: t.ending.next)) :
    Accounted (log ++ (front ++ deeds now (c.retired now run t.ending stop).2)) tales prompt now
      (c.retired now run t.ending stop).1 := by
  have hMore := recounted_more (front ++ [said now (stopNote t.ending)]) h
  rw [← List.append_assoc rest, hLines] at hMore
  have hOver := recounted_over hTimely hMore
  cases hEnding : t.ending with
  | manual ticket =>
      rw [hEnding] at hOver
      exact ⟨rfl, _, hOver⟩
  | expired =>
      rw [hEnding] at hOver
      exact ⟨rfl, _, hOver⟩
  | shutdown =>
      rw [hEnding] at hOver
      exact ⟨rfl, _, hOver⟩
  | replaced minutes ticket =>
      rw [hEnding] at hOver
      have hLasting : Lasting (stints ++ [t]) c.shown := fun _ => ⟨stints, t, rfl, hCurrent.shown⟩
      have hNext : Accounted (_ ++ filing minutes now) tales prompt now
          (c.begin now minutes ticket).1 := accounted_begin minutes ticket hLasting hOver
      rw [List.append_assoc, List.append_assoc] at hNext
      exact hNext

theorem accounted_unfiled {run : Run} {ending : Ending} (outcome : Except Fault Unit)
    (h : Accounted log tales prompt now c) (hPhase : c.phase = .switchingOff run ending)
    (hRow : run.id = none) :
    Accounted
      (log ++ ((Event.reply (.sensors (.switched outcome))).lines now ++
        deeds now (offWarning outcome ++ (c.retired now run ending (instantOf now)).2)))
      tales prompt now (c.retired now run ending (instantOf now)).1 := by
  rcases c with ⟨phase, shown⟩
  cases hPhase
  rcases h with ⟨stints, d, decided, hCurrent, hTimely, hRest⟩
  have hNone : d.row = none := hCurrent.row.trans hRow
  let t : Stint :=
    { debut := d, ending, decided, switched := now, went := outcome, closure := none
      closes := by rw [hNone]; rfl }
  have hLines : d.lines ++ leaving decided ++ answeredOff now outcome ++
      [said now (stopNote ending)] = t.lines := by
    simp [t, Stint.lines, Stint.departure, Stint.filed, Stint.concluded, hNone]
  have hFront (effects : List Effect) :
      (Event.reply (.sensors (.switched outcome))).lines now ++
          deeds now (offWarning outcome ++ effects) =
        answeredOff now outcome ++ deeds now effects := by
    simp [answeredOff, Event.lines]
  rw [hFront]
  exact accounted_retired (t := t) _ hCurrent hTimely hLines hRest

theorem accounted_labelled {run : Run} {ending : Ending} {stop : Time.Instant}
    (outcome : Except Fault Entry) (h : Accounted log tales prompt now c)
    (hPhase : c.phase = .labelling run ending stop) :
    Accounted
      (log ++ ((Event.reply (.store (.entry outcome))).lines now ++
        deeds now (c.retired now run ending stop).2))
      tales prompt now (c.retired now run ending stop).1 := by
  rcases c with ⟨phase, shown⟩
  cases hPhase
  rcases h with
    ⟨stints, d, decided, switched, went, id, closed, answer, hCurrent, hTimely, hRow, hRest⟩
  let t : Stint :=
    { debut := d, ending, decided, switched, went
      closure := some ⟨closed, answer, now, outcome⟩
      closes := by rw [hRow]; rfl }
  have hLines : d.lines ++ leaving decided ++ answeredOff switched went ++
      closing switched id ++ labelling closed answer id ending ++
      [heard now (.store (.entry outcome))] ++ [said now (stopNote ending)] = t.lines := by
    simp [t, Stint.lines, Stint.departure, Stint.filed, Stint.concluded, hRow]
  exact accounted_retired (t := t) _ hCurrent hTimely hLines hRest

/-!
## The beginning of a run
-/

theorem accounted_began {d : Debut} {opening : Opening} {stints : List Stint} {rest : Log}
    (front : Log) (hStart : opening.start = instantOf d.asked)
    (hMinutes : opening.minutes = d.minutes) (hNow : d.begun = now)
    (hLines : rest ++ front ++ [said now (startNote d.minutes)] = d.lines)
    (h : Recounted log tales prompt stints rest [⟨opening.minutes, none⟩]) :
    Accounted (log ++ (front ++ deeds now (Controller.began now opening d.row d.status).2))
      tales prompt now (Controller.began now opening d.row d.status).1 := by
  rcases opening with ⟨minutes, ticket, start⟩
  subst hStart hMinutes hNow
  have hMore := recounted_more (front ++ [said d.begun (startNote d.minutes)]) h
  rw [← List.append_assoc rest, hLines] at hMore
  exact ⟨stints, d, ⟨rfl, rfl⟩, hMore⟩

theorem accounted_lit {opening : Opening} {id : Option Int}
    (h : Accounted log tales prompt now c) (hPhase : c.phase = .switchingOn opening id) :
    Accounted
      (log ++ ((Event.reply (.sensors (.switched (.ok ())))).lines now ++
        deeds now (Controller.began now opening id runningStatus).2))
      tales prompt now (Controller.began now opening id runningStatus).1 := by
  rcases c with ⟨phase, shown⟩
  cases hPhase
  rcases h with ⟨stints, asked, filed, entry, hStart, hAsked, hLasting, hRow, hRest⟩
  let d : Debut :=
    { minutes := opening.minutes, asked, filed, entry, switched := now, came := .ok ()
      flagged := none, flags := by simp [Except.isOk, Except.toBool]
      inTime := hAsked }
  have hId : id = d.row := hRow
  subst hId
  exact accounted_began (d := d) _ hStart rfl rfl rfl hRest

/-- The generator has failed to come on, and there is no row to note it in. -/
theorem accounted_unnoted {opening : Opening} (fault : Fault)
    (h : Accounted log tales prompt now c) (hPhase : c.phase = .switchingOn opening none) :
    Accounted
      (log ++ ((Event.reply (.sensors (.switched (.error fault)))).lines now ++
        deeds now (Controller.beganWithout now opening none fault).2))
      tales prompt now (Controller.beganWithout now opening none fault).1 := by
  rcases c with ⟨phase, shown⟩
  cases hPhase
  rcases h with ⟨stints, asked, filed, entry, hStart, hAsked, hLasting, hRow, hRest⟩
  cases entry with
  | ok entry => cases hRow
  | error why =>
      let d : Debut :=
        { minutes := opening.minutes, asked, filed, entry := .error why, switched := now
          came := .error fault, flagged := none, flags := rfl, inTime := hAsked }
      exact accounted_began (d := d)
        (answeredOn now (.error fault) ++ [said now (failureNote fault)])
        hStart rfl rfl rfl hRest

theorem accounted_noted {opening : Opening} {id : Int} {why : Fault}
    (outcome : Except Fault Entry) (h : Accounted log tales prompt now c)
    (hPhase : c.phase = .flagging opening id why) :
    Accounted
      (log ++ ((Event.reply (.store (.entry outcome))).lines now ++
        deeds now (Controller.beganWithout now opening (some id) why).2))
      tales prompt now (Controller.beganWithout now opening (some id) why).1 := by
  rcases c with ⟨phase, shown⟩
  cases hPhase
  rcases h with ⟨stints, asked, filed, entry, switched, hStart, hAsked, hLasting, hRow, hRest⟩
  cases entry with
  | error fault => cases hRow
  | ok entry =>
      cases hRow
      let d : Debut :=
        { minutes := opening.minutes, asked, filed, entry := .ok entry, switched
          came := .error why, flagged := some (now, outcome), flags := rfl
          inTime := hAsked }
      exact accounted_began (d := d)
        [heard now (.store (.entry outcome)), said now (failureNote why)]
        hStart rfl rfl rfl hRest

end Accounted

/-!
## Moves
-/

theorem accounted_move {log : Log} {tales : List Tale} {prompt : Prop} {now : Nat}
    {c : Controller} {event : Event} {result : Controller × List Effect}
    (h : Accounted log tales prompt now c) (hMove : Move now c event result)
    (hEarly : forall command ticket, event = .command command ticket ->
      forall run, c.active? = some run -> now < run.deadline)
    (hLimit : event = .deadline -> prompt ->
      forall run, c.active? = some run -> now ≤ run.deadline) :
    Accounted (log ++ (event.lines now ++ deeds now result.2)) (tell tales event) prompt now
      result.1 := by
  rcases c with ⟨phase, shown⟩
  cases hMove with
  | loaded outcome hPhase =>
      cases hPhase
      rcases h with ⟨hOff, hTales, asked, hLog⟩
      refine ⟨?_, hTales, asked, now, outcome, by rw [hLog]; rfl⟩
      exact Monitor.restored_running hOff outcome
  | secured outcome hPhase =>
      cases hPhase
      rcases h with ⟨hOff, hTales, asked, loaded, latest, hLog⟩
      refine ⟨hOff, [], ⟨⟨asked, loaded, latest, now, outcome⟩, ?_⟩, hTales, by simp⟩
      rw [hLog]
      simp [Entrance.lines, answeredOff, Event.lines]
  | finished hPhase =>
      cases hPhase
      rcases h with ⟨hOff, stints, hRest⟩
      exact ⟨hOff, stints, recounted_more [] (recounted_decided .shutdown hRest)⟩
  | shutDown hPhase => exact accounted_retire h hPhase nofun nofun (.inr (.inl rfl))
  | expired hPhase hDue =>
      have hActive := Controller.active?_eq_some.mpr hPhase
      exact accounted_retire h hPhase (fun _ => hDue)
        (fun _ hPrompt => hLimit rfl hPrompt _ hActive) (.inl rfl)
  | spared ticket hPhase =>
      cases hPhase
      rcases h with ⟨hOff, stints, hRest⟩
      exact ⟨hOff, stints, recounted_more [] (recounted_decided (.manual ticket) hRest)⟩
  | stopped ticket hPhase =>
      have hActive := Controller.active?_eq_some.mpr hPhase
      exact accounted_retire h hPhase nofun nofun (.inr (.inr (hEarly _ _ rfl _ hActive)))
  | opened minutes ticket hPhase =>
      cases hPhase
      rcases h with ⟨hOff, stints, hRest⟩
      have hLasting : Lasting stints shown := fun hOn => by cases hOff.symm.trans hOn
      exact accounted_begin minutes ticket hLasting
        (recounted_decided (.replaced minutes ticket) hRest)
  | replaced minutes ticket hPhase =>
      have hActive := Controller.active?_eq_some.mpr hPhase
      exact accounted_retire h hPhase nofun nofun (.inr (.inr (hEarly _ _ rfl _ hActive)))
  | switchedOff outcome hPhase hRow =>
      cases hPhase
      rcases h with ⟨stints, d, decided, hCurrent, hTimely, hRest⟩
      refine ⟨stints, d, decided, now, outcome, hCurrent, hTimely, hCurrent.row.trans hRow, ?_⟩
      simpa [answeredOff, closing, Event.lines, Controller.stopCall, tell]
        using recounted_more _ hRest
  | unfiled outcome hPhase hRow => exact accounted_unfiled outcome h hPhase hRow
  | closed outcome hPhase =>
      cases hPhase
      rcases h with ⟨stints, d, decided, switched, went, hCurrent, hTimely, hRow, hRest⟩
      refine ⟨stints, d, decided, switched, went, _, now, outcome, hCurrent, hTimely, hRow, ?_⟩
      exact recounted_more _ hRest
  | labelled outcome hPhase => exact accounted_labelled outcome h hPhase
  | recorded outcome hPhase =>
      cases hPhase
      rcases h with ⟨stints, asked, hStart, hAsked, hLasting, hRest⟩
      exact ⟨stints, asked, now, outcome, hStart, hAsked, hLasting, rfl, recounted_more _ hRest⟩
  | switchedOn hPhase => exact accounted_lit h hPhase
  | failedOn fault hPhase =>
      cases hPhase
      rcases h with ⟨stints, asked, filed, entry, hStart, hAsked, hLasting, hRow, hRest⟩
      refine ⟨stints, asked, filed, entry, now, hStart, hAsked, hLasting, hRow, ?_⟩
      simpa [answeredOn, flagging, Event.lines, Controller.statusCall, tell]
        using recounted_more _ hRest
  | failedUnfiled fault hPhase => exact accounted_unnoted fault h hPhase
  | flagged outcome hPhase => exact accounted_noted outcome h hPhase

/-!
## What has been told
-/

section Chronicle

variable {log : Log} {tales : List Tale} {prompt : Prop} {now : Nat} {c : Controller}

theorem accounted_rest (h : Accounted log tales prompt now c)
    (hRest : c.isWaiting = true ∨ c.hasEnded = true) :
    exists a : Chronicle, a.Timely prompt ∧ log = a.lines ∧ a.tales = tales ∧
      a.current.map Debut.run = c.active? := by
  rcases c with ⟨phase, shown⟩
  have hIdle {stints : List Stint} (hRecounted : Recounted log tales prompt stints [] []) :
      exists a : Chronicle, a.Timely prompt ∧ log = a.lines ∧ a.tales = tales ∧
        a.current.map Debut.run = none := by
    rcases hRecounted.log with ⟨entrance, hLog⟩
    exact ⟨⟨entrance, stints, none⟩, hRecounted.timely, hLog, hRecounted.tales.symm, rfl⟩
  rcases hRest with hWaiting | hEnded
  · rcases Controller.isWaiting_iff.mp hWaiting with ⟨active, hPhase⟩
    cases hPhase
    cases active with
    | none =>
        rcases h with ⟨_, stints, hRecounted⟩
        exact hIdle hRecounted
    | some run =>
        rcases h with ⟨stints, d, hCurrent, hRecounted⟩
        rcases hRecounted.log with ⟨entrance, hLog⟩
        refine ⟨⟨entrance, stints, some d⟩, hRecounted.timely, ?_, hRecounted.tales.symm, ?_⟩
        · simpa [Chronicle.lines] using hLog
        · exact congrArg some hCurrent.run.symm
  · cases Controller.hasEnded_iff.mp hEnded
    rcases h with ⟨_, stints, hRecounted⟩
    exact hIdle hRecounted

/-- At any time a part of what is to be told has been told.  What is still to come is made
up: the calls have yet to be answered. -/
theorem accounted_part (h : Accounted log tales prompt now c) :
    exists a, PartOf a log tales prompt := by
  let unanswered : Except Fault Entry := .error .monitorStopped
  have hTold (hRest : c.isWaiting = true ∨ c.hasEnded = true) :
      exists a, PartOf a log tales prompt := by
    rcases accounted_rest h hRest with ⟨a, hTimely, hLog, hTales, _⟩
    exact ⟨a, hLog ▸ List.prefix_rfl, hTales ▸ List.prefix_rfl, hTimely⟩
  rcases c with ⟨phase, shown⟩
  cases phase with
  | dormant =>
      rw [h.2.1]
      exact recounted_entrance ⟨0, 0, .ok none, 0, .ok ()⟩ List.nil_prefix
  | loading =>
      rcases h with ⟨_, _, asked, hLog⟩
      rw [hLog]
      exact recounted_entrance ⟨asked, 0, .ok none, 0, .ok ()⟩ ⟨_, rfl⟩
  | securing =>
      rcases h with ⟨_, _, asked, loaded, latest, hLog⟩
      rw [hLog]
      exact recounted_entrance ⟨asked, loaded, latest, 0, .ok ()⟩ ⟨_, rfl⟩
  | ended => exact hTold (.inr rfl)
  | waiting active => exact hTold (.inl rfl)
  | switchingOff run ending =>
      rcases h with ⟨stints, d, decided, _, hTimely, hRecounted⟩
      let t : Stint :=
        { debut := d, ending, decided, switched := 0, went := .ok ()
          closure := d.row.map fun _ => ⟨0, unanswered, 0, unanswered⟩
          closes := Option.isSome_map .. }
      refine recounted_ending t hRecounted hTimely ?_
      simp [t, Stint.lines, Stint.departure]
  | closing run ending id stop =>
      rcases h with ⟨stints, d, decided, switched, went, _, hTimely, hRow, hRecounted⟩
      let t : Stint :=
        { debut := d, ending, decided, switched, went
          closure := some ⟨0, unanswered, 0, unanswered⟩, closes := by rw [hRow]; rfl }
      have hFiled : t.filed = closing switched id ++ labelling 0 unanswered id ending ++
          [heard 0 (.store (.entry unanswered))] := by
        simp [t, Stint.filed, hRow]
      refine recounted_ending t hRecounted hTimely ?_
      simp [t, Stint.lines, Stint.departure, hFiled]
  | labelling run ending stop =>
      rcases h with
        ⟨stints, d, decided, switched, went, id, closed, answer, _, hTimely, hRow, hRecounted⟩
      let t : Stint :=
        { debut := d, ending, decided, switched, went
          closure := some ⟨closed, answer, 0, unanswered⟩, closes := by rw [hRow]; rfl }
      have hFiled : t.filed = closing switched id ++ labelling closed answer id ending ++
          [heard 0 (.store (.entry unanswered))] := by
        simp [t, Stint.filed, hRow]
      refine recounted_ending t hRecounted hTimely ?_
      simp [t, Stint.lines, Stint.departure, hFiled]
  | recording opening =>
      rcases h with ⟨stints, asked, _, _, _, hRecounted⟩
      let d : Debut :=
        { minutes := opening.minutes, asked, filed := asked, entry := unanswered, switched := asked
          came := .ok (), flagged := none, flags := rfl, inTime := le_rfl }
      exact recounted_beginning d hRecounted ⟨_, rfl⟩
  | switchingOn opening row =>
      rcases h with ⟨stints, asked, filed, entry, _, _, _, _, hRecounted⟩
      let d : Debut :=
        { minutes := opening.minutes, asked, filed, entry, switched := asked
          came := .ok (), flagged := none, flags := by simp [Except.isOk, Except.toBool]
          inTime := le_rfl }
      exact recounted_beginning d hRecounted ⟨_, rfl⟩
  | flagging opening id why =>
      rcases h with ⟨stints, asked, filed, entry, switched, _, _, _, hRow, hRecounted⟩
      cases entry with
      | error fault => cases hRow
      | ok entry =>
          cases hRow
          let d : Debut :=
            { minutes := opening.minutes, asked, filed, entry := .ok entry, switched
              came := .error why, flagged := some (asked, unanswered), flags := rfl
              inTime := le_rfl }
          exact recounted_beginning d hRecounted ⟨_, rfl⟩

end Chronicle

end Ozone
end TubMonitor
