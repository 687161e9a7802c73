import TubMonitor.Proofs.Isolation.Unwinding

/-!
# Two sessions side by side

Two sessions that agree on what decides about a loop agree on all that the loop does.
Neither session need take its steps when the other does: the one goes on by itself as
long as its scenes do not concern the loop.
-/

namespace TubMonitor
namespace Monitor

section Abreast

variable {π : Type} {source : Notice.Source} {part : Monitor -> π} {fates : Nat -> Fate}
  {made steps : Nat}

/-- Two sessions from where they are alike, with the same still to come for the loop. -/
structure Abreast (source : Notice.Source) (part : Monitor -> π) (fates : Nat -> Fate)
    (made steps : Nat) (s : Monitor) (hs : List Happening) (t : Monitor)
    (ks : List Happening) : Prop where
  alike : Alike source part s t
  first : Session s hs source fates made
  second : Session t ks source fates made
  arrivals : arrivals source steps (s.scenes hs) = Monitor.arrivals source steps (t.scenes ks)
  moment : (s.after hs).moment source (stepsTaken source steps (s.scenes hs)) =
    (t.after ks).moment source (stepsTaken source steps (t.scenes ks))

/-- The loop comes to the same end in both, and by the same deeds. -/
structure Agrees (source : Notice.Source) (part : Monitor -> π) (s : Monitor)
    (hs : List Happening) (t : Monitor) (ks : List Happening) : Prop where
  part : part (s.after hs) = part (t.after ks)
  marks : marks source (s.scenes hs) = Monitor.marks source (t.scenes ks)

theorem abreast_symm {s t : Monitor} {hs ks : List Happening}
    (h : Abreast source part fates made steps s hs t ks) :
    Abreast source part fates made steps t ks s hs :=
  ⟨alike_symm h.alike, h.second, h.first, h.arrivals.symm, h.moment.symm⟩

theorem agrees_symm {s t : Monitor} {hs ks : List Happening}
    (h : Agrees source part s hs t ks) : Agrees source part t ks s hs :=
  ⟨h.part.symm, h.marks.symm⟩

variable {s t : Monitor} {h k : Happening} {hs ks : List Happening}

theorem abreast_untouched (hUnwinding : Unwinding source part)
    (hAbreast : Abreast source part fates made steps s (h :: hs) t ks)
    (hUntouched : Untouched source ⟨s, h⟩) :
    Abreast source part fates made steps (s.happen h) hs t ks where
  alike := by
    have hOrderly := session_orderly hAbreast.first
    have hPart : part (s.happen h) = part s := hUnwinding.same hUntouched.same
    exact
      { first := sound_happen hAbreast.alike.first hOrderly.going
        second := hAbreast.alike.second
        config := by rw [config_happen]; exact hAbreast.alike.config
        part := hPart.trans hAbreast.alike.part }
  first := by
    have hRest := session_rest hAbreast.first
    rwa [calls_untouched hUntouched] at hRest
  second := hAbreast.second
  arrivals := by
    have hArrivals := hAbreast.arrivals
    rwa [scenes_cons, Monitor.arrivals, hUntouched.arrival, hUntouched.next] at hArrivals
  moment := by
    have hMoment := hAbreast.moment
    rwa [scenes_cons, stepsTaken, hUntouched.next] at hMoment

theorem agrees_untouched (hUntouched : Untouched source ⟨s, h⟩)
    (hAgrees : Agrees source part (s.happen h) hs t ks) :
    Agrees source part s (h :: hs) t ks where
  part := hAgrees.part
  marks := by
    rw [scenes_cons, marks_cons, marks_untouched hUntouched]
    exact hAgrees.marks

/-- Both sessions go through a scene in which the same arrives and the loop does the same. -/
theorem abreast_step (hUnwinding : Unwinding source part)
    (hAbreast : Abreast source part fates made steps s (h :: hs) t (k :: ks))
    (hStep : StepAlike source part ⟨s, h⟩ ⟨t, k⟩)
    (hArrival : (Scene.mk s h).arrival? source = (Scene.mk t k).arrival? source)
    (hNext : (Scene.mk s h).isNext source = (Scene.mk t k).isNext source) :
    Abreast source part fates (made + (callsOf ((Scene.mk s h).effects source)).length)
      (if (Scene.mk s h).isNext source then steps + 1 else steps)
      (s.happen h) hs (t.happen k) ks where
  alike := alike_happen hAbreast.alike (session_orderly hAbreast.first).going
    (session_orderly hAbreast.second).going hStep.part
  first := session_rest hAbreast.first
  second := by
    have hCalls := congrArg callsOf hStep.effects
    rw [callsOf_anonymous, callsOf_anonymous] at hCalls
    rw [hCalls]
    exact session_rest hAbreast.second
  arrivals := by
    have hArrivals := hAbreast.arrivals
    have hMoment : s.moment source steps = t.moment source steps := by
      rw [Monitor.moment, Monitor.moment, hUnwinding.now hAbreast.alike.part,
        alike_next hUnwinding hAbreast.alike]
    rw [scenes_cons, scenes_cons, Monitor.arrivals, Monitor.arrivals, hArrival, hMoment,
      ← hNext] at hArrivals
    exact List.append_cancel_left hArrivals
  moment := by
    have hMoment := hAbreast.moment
    rwa [scenes_cons, scenes_cons, stepsTaken, stepsTaken, ← hNext] at hMoment

theorem agrees_step (hMarks : (Scene.mk s h).marks source = (Scene.mk t k).marks source)
    (hAgrees : Agrees source part (s.happen h) hs (t.happen k) ks) :
    Agrees source part s (h :: hs) t (k :: ks) where
  part := hAgrees.part
  marks := by
    rw [scenes_cons, scenes_cons, marks_cons, marks_cons, hMarks, hAgrees.marks]

/-!
## What comes first

The loop does what is next, or something arrives before that, or there is nothing next
and time passes.
-/

inductive Arrives (source : Notice.Source) (s : Monitor) : Happening -> Arrival -> Prop where
  | start (hFresh : s.isFresh = true) : Arrives source s .start .start
  | order {h : Happening} {order : Console.Order}
      (hOrder : (Scene.mk s h).ownOrder? source = some order)
      (hArrival : (Scene.mk s h).arrival? source = some (.order order))
      (hEffects : (Scene.mk s h).effects source = [])
      (hNext : (Scene.mk s h).isNext source = false)
      (hSame : Same source (s.send order).2 (s.happen h)) : Arrives source s h (.order order)
  | stepUp {line : Turn} (hLine : source.lineTurn? = some line)
      (hArrival : (Scene.mk s (.turn line)).arrival? source = some .stepUp)
      (hNext : s.nextTurn? source = some source.turn) :
      Arrives source s (.turn line) .stepUp

inductive Comes (source : Notice.Source) (s : Monitor) : Happening -> Prop where
  | next {turn : Turn} (hNext : s.nextTurn? source = some turn) :
      Comes source s (.turn turn)
  | arrival {h : Happening} {arrival : Arrival} (hArrives : Arrives source s h arrival) :
      Comes source s h
  | wait {moment : Nat} (hLater : s.now < moment) (hDone : s.IsDone source) :
      Comes source s (.wait moment)

theorem touches_comes (hOrderly : (Scene.mk s h).Orderly source)
    (hTouches : Touches source ⟨s, h⟩) : Comes source s h := by
  cases hTouches with
  | next hTurn hNext =>
      have hTakes : h = .turn _ := hTurn
      subst hTakes
      exact .next hNext
  | stepUp hLine hTurn hArrival hNext =>
      have hTakes : h = .turn _ := hTurn
      subst hTakes
      exact .arrival (.stepUp hLine hArrival hNext)
  | start hStart hFresh =>
      have hBegins : h = .start := hStart
      subst hBegins
      exact .arrival (.start hFresh)
  | order hOrder hArrival hEffects hNext hSame =>
      exact .arrival (.order hOrder hArrival hEffects hNext hSame)
  | wait hWait hLater =>
      have hPasses : h = .wait _ := hWait
      subst hPasses
      exact .wait hLater (hOrderly.wait _ s.now rfl (Nat.le_refl _) hLater)

theorem arrives_arrival {arrival : Arrival} (hArrives : Arrives source s h arrival) :
    (Scene.mk s h).arrival? source = some arrival := by
  cases hArrives with
  | start hFresh => exact if_pos hFresh
  | order _ hArrival _ _ _ => exact hArrival
  | stepUp _ hArrival _ => exact hArrival

theorem lineTurn_apart {line : Turn} (hLine : source.lineTurn? = some line) :
    line ≠ source.turn := by
  cases source <;> cases hLine <;> nofun

theorem arrives_next {arrival : Arrival} (hArrives : Arrives source s h arrival) :
    (Scene.mk s h).isNext source = false := by
  cases hArrives with
  | start hFresh => rfl
  | order _ _ _ hNext _ => exact hNext
  | @stepUp line hLine _ hNext =>
      have hApart := lineTurn_apart hLine
      simp [Scene.isNext, hNext, hApart.symm]

theorem arrivals_first {arrival : Arrival} (hArrives : Arrives source s h arrival) :
    arrivals source steps (s.scenes (h :: hs)) =
      (s.moment source steps, arrival) ::
        arrivals source steps ((s.happen h).scenes hs) := by
  rw [scenes_cons, arrivals, arrives_arrival hArrives, arrives_next hArrives]
  rfl

theorem arrival_next {turn : Turn} (hNext : s.nextTurn? source = some turn) :
    (Scene.mk s (.turn turn)).arrival? source = none := by
  unfold nextTurn? at hNext
  split at hNext
  · cases hNext
    cases source <;> rfl
  · next hBusy =>
      have hLine := (Option.filter_eq_some_iff.mp hNext).1
      have hStays : (Scene.mk s (.turn turn)).stepsUp source = false := by
        simp [Scene.stepsUp, Bool.eq_false_iff.mpr hBusy]
      rw [arrival_turn hStays]
      cases source <;> cases hLine <;> rfl

/-- What arrives before the loop does what is next does not arrive after it. -/
theorem next_first {turn : Turn} {arrival : Arrival} (hUnwinding : Unwinding source part)
    (hAbreast : Abreast source part fates made steps s (.turn turn :: hs) t (k :: ks))
    (hNext : s.nextTurn? source = some turn) (hArrives : Arrives source t k arrival) :
    False := by
  have hNextToo := hNext
  rw [alike_next hUnwinding hAbreast.alike] at hNextToo
  have hIsNext : (Scene.mk s (.turn turn)).isNext source = true := beq_iff_eq.mpr hNext
  have hArrivals := hAbreast.arrivals
  rw [arrivals_first hArrives, scenes_cons, Monitor.arrivals, arrival_next hNext, hIsNext,
    Option.map_none, Option.toList_none, List.nil_append, if_pos rfl] at hArrivals
  have hMem : (t.moment source steps, arrival) ∈
      Monitor.arrivals source (steps + 1) ((s.happen (.turn turn)).scenes hs) := by
    rw [hArrivals]
    exact List.mem_cons_self
  have hLater := (arrivals_later hMem).2 steps (by simp [Monitor.moment, hNextToo])
  omega

theorem wait_first {moment : Nat} {arrival : Arrival} (hUnwinding : Unwinding source part)
    (hAbreast : Abreast source part fates made steps s (.wait moment :: hs) t (k :: ks))
    (hLater : s.now < moment) (hArrives : Arrives source t k arrival) : False := by
  have hNow : s.now = t.now := hUnwinding.now hAbreast.alike.part
  have hNone : (Scene.mk s (.wait moment)).arrival? source = none := rfl
  have hStill : (Scene.mk s (.wait moment)).isNext source = false := rfl
  have hArrivals := hAbreast.arrivals
  rw [arrivals_first hArrives, scenes_cons, Monitor.arrivals, hNone, hStill, Option.map_none,
    Option.toList_none, List.nil_append, if_neg Bool.false_ne_true] at hArrivals
  have hMem : (t.moment source steps, arrival) ∈
      Monitor.arrivals source steps ((s.happen (.wait moment)).scenes hs) := by
    rw [hArrivals]
    exact List.mem_cons_self
  have hLate : max s.now moment ≤ t.now := (arrivals_later hMem).1
  omega

theorem arrives_same {first second : Arrival}
    (hAbreast : Abreast source part fates made steps s (h :: hs) t (k :: ks))
    (hFirst : Arrives source s h first) (hSecond : Arrives source t k second) :
    first = second := by
  have hArrivals := hAbreast.arrivals
  rw [arrivals_first hFirst, arrivals_first hSecond, List.cons.injEq, Prod.mk.injEq] at hArrivals
  exact hArrivals.1.2

/-!
## Waiting
-/

theorem session_cut {moment now : Nat} (hLater : t.now ≤ now) (hBefore : now ≤ moment)
    (hSession : Session t (.wait moment :: ks) source fates made) :
    Session (t.happen (.wait now)) (.wait moment :: ks) source fates made ∧
      (t.happen (.wait now)).happen (.wait moment) = t.happen (.wait moment) := by
  have hCut : t.happen (.wait now) = { t with now := now } := by
    rw [happen, Nat.max_eq_right hLater]
  have hEnd : (t.happen (.wait now)).happen (.wait moment) = t.happen (.wait moment) := by
    rw [hCut, happen, happen, Nat.max_eq_right hBefore,
      Nat.max_eq_right (Nat.le_trans hLater hBefore)]
  have hOrderly := session_orderly hSession
  have hRest := session_rest hSession
  have hEffects (u : Monitor) : (Scene.mk u (.wait moment)).effects source = [] := by
    cases source <;> rfl
  rw [hEffects] at hRest
  refine ⟨⟨?_, ?_⟩, hEnd⟩
  · intro scene hScene
    rw [scenes_cons, hEnd, List.mem_cons] at hScene
    rcases hScene with rfl | hScene
    · rw [hCut]
      exact
        { wait := by
            intro other later hWait hAfter hEarlier
            cases hWait
            exact hOrderly.wait moment later rfl (Nat.le_trans hLater hAfter) hEarlier
          rows := fun _ hShift => by cases hShift
          going := fun hCancel => by cases hCancel }
    · exact hRest.orderly scene hScene
  · rw [scenes_cons, hEnd]
    refine ⟨⟨?_, fun _ hTurn => by cases hTurn⟩, ?_⟩
    · intro call hCall
      rw [hEffects] at hCall
      cases hCall
    · rw [hEffects]
      exact hRest.meets

theorem marks_wait (source : Notice.Source) (u : Monitor) (moment : Nat) :
    (Scene.mk u (.wait moment)).marks source = [] := by
  cases source with
  | ozone =>
      have hLost : (Scene.mk u (.wait moment)).losses ozoneBox = [] := losses_open rfl
      simp [Scene.marks, Scene.lost, hLost, Scene.effects, Scene.ozoneEvent?,
        Scene.ownOrder?, Scene.order?]
  | leak => rfl
  | temperature =>
      have hLost : (Scene.mk u (.wait moment)).losses targetBox = [] := losses_open rfl
      simp [Scene.marks, Scene.lost, hLost, Scene.effects, Scene.temperatureEvent?,
        Scene.ownOrder?, Scene.order?]

/-- Both sessions wait until the one that waits less is done with it. -/
theorem abreast_wait {soon late : Nat} (hUnwinding : Unwinding source part)
    (hSoon : s.now < soon) (hLate : soon ≤ late)
    (hAbreast : Abreast source part fates made steps s (.wait soon :: hs) t (.wait late :: ks)) :
    Abreast source part fates made steps (s.happen (.wait soon)) hs (t.happen (.wait soon))
        (.wait late :: ks) ∧
      (t.happen (.wait soon)).happen (.wait late) = t.happen (.wait late) := by
  have hNow := hUnwinding.now hAbreast.alike.part
  have hCut := session_cut (by omega) hLate hAbreast.second
  have hRest := session_rest hAbreast.first
  have hEffects : (Scene.mk s (.wait soon)).effects source = [] := by
    cases source <;> rfl
  rw [hEffects] at hRest
  refine ⟨⟨?_, hRest, hCut.1, ?_, ?_⟩, hCut.2⟩
  · refine alike_happen hAbreast.alike nofun nofun ?_
    rw [happen, happen, ← hNow]
    exact hUnwinding.wait (max s.now soon) hAbreast.alike.part
  · have hArrivals := hAbreast.arrivals
    rw [scenes_cons, scenes_cons] at hArrivals
    rw [scenes_cons, hCut.2]
    exact hArrivals
  · rw [after_cons, scenes_cons, hCut.2]
    exact hAbreast.moment

theorem agrees_wait {soon late : Nat}
    (hEnd : (t.happen (.wait soon)).happen (.wait late) = t.happen (.wait late))
    (hAgrees : Agrees source part (s.happen (.wait soon)) hs (t.happen (.wait soon))
      (.wait late :: ks)) :
    Agrees source part s (.wait soon :: hs) t (.wait late :: ks) where
  part := by
    have hPart := hAgrees.part
    rwa [after_cons, hEnd] at hPart
  marks := by
    have hMarks := hAgrees.marks
    rw [scenes_cons, marks_cons, marks_wait, hEnd] at hMarks
    rw [scenes_cons, scenes_cons, marks_cons, marks_cons, marks_wait, marks_wait]
    exact hMarks

/-!
## Side by side
-/

/-- The sessions agree from here on if all that are nearer to their ends do. -/
def AgreeNearer (source : Notice.Source) (part : Monitor -> π) (fates : Nat -> Fate)
    (length : Nat) : Prop :=
  forall made steps s hs t ks, hs.length + ks.length < length ->
    Abreast source part fates made steps s hs t ks -> Agrees source part s hs t ks

theorem agrees_both {length : Nat} (hUnwinding : Unwinding source part)
    (hNearer : AgreeNearer source part fates length)
    (hLength : hs.length + ks.length < length)
    (hAbreast : Abreast source part fates made steps s (h :: hs) t (k :: ks))
    (hStep : StepAlike source part ⟨s, h⟩ ⟨t, k⟩)
    (hArrival : (Scene.mk s h).arrival? source = (Scene.mk t k).arrival? source)
    (hNext : (Scene.mk s h).isNext source = (Scene.mk t k).isNext source)
    (hOrders : ((Scene.mk s h).ownOrder? source).map
        (fun order => (order, (Scene.mk s h).refusal? order)) =
      ((Scene.mk t k).ownOrder? source).map
        fun order => (order, (Scene.mk t k).refusal? order)) :
    Agrees source part s (h :: hs) t (k :: ks) := by
  have hPart := hAbreast.alike.part
  have hLost : (Scene.mk s h).lost source = (Scene.mk t k).lost source :=
    hUnwinding.lost hPart hStep.part
  have hMarks := marks_alike (hUnwinding.now hPart) hStep.effects hLost hOrders
  exact agrees_step hMarks
    (hNearer _ _ _ _ _ _ hLength (abreast_step hUnwinding hAbreast hStep hArrival hNext))

theorem agrees_waits {length soon late : Nat} (hUnwinding : Unwinding source part)
    (hNearer : AgreeNearer source part fates length)
    (hLength : hs.length + ks.length + 1 < length) (hSoon : s.now < soon) (hLate : soon ≤ late)
    (hAbreast : Abreast source part fates made steps s (.wait soon :: hs) t (.wait late :: ks)) :
    Agrees source part s (.wait soon :: hs) t (.wait late :: ks) := by
  rcases abreast_wait hUnwinding hSoon hLate hAbreast with ⟨hRest, hEnd⟩
  refine agrees_wait hEnd (hNearer _ _ _ _ _ _ ?_ hRest)
  rw [List.length_cons]
  omega

theorem line_quiet {line : Turn} (hLine : source.lineTurn? = some line) (u : Monitor) :
    (Scene.mk u (.turn line)).effects source = [] ∧
      (Scene.mk u (.turn line)).ownOrder? source = none := by
  cases source <;> cases hLine <;> exact ⟨rfl, rfl⟩

theorem line_alike {line : Turn} (hUnwinding : Unwinding source part)
    (hAlike : Alike source part s t) (hLine : source.lineTurn? = some line) :
    StepAlike source part ⟨s, .turn line⟩ ⟨t, .turn line⟩ where
  part := hUnwinding.line hAlike hLine
  effects := by rw [(line_quiet hLine s).1, (line_quiet hLine t).1]

theorem agrees_next {turn : Turn} {length : Nat} (hUnwinding : Unwinding source part)
    (hNearer : AgreeNearer source part fates length)
    (hLength : hs.length + ks.length < length)
    (hAbreast : Abreast source part fates made steps s (.turn turn :: hs) t (.turn turn :: ks))
    (hNext : s.nextTurn? source = some turn) :
    Agrees source part s (.turn turn :: hs) t (.turn turn :: ks) := by
  have hAlike := hAbreast.alike
  have hNextToo := hNext
  rw [alike_next hUnwinding hAlike] at hNextToo
  have hArrival := (arrival_next hNext).trans (arrival_next hNextToo).symm
  have hBoth : (Scene.mk s (.turn turn)).isNext source =
      (Scene.mk t (.turn turn)).isNext source := by
    rw [Scene.isNext, Scene.isNext, hNext, hNextToo]
  have hCan := (nextTurn_some hNext).2
  have hTurn := (nextTurn_some hNext).1
  simp only [isTurnOf, Bool.or_eq_true, beq_iff_eq] at hTurn
  rcases hTurn with rfl | hLine
  · have hStep := hUnwinding.turn hAlike hCan (nextTurn_some hNextToo).2
      (session_meets hAbreast.first) (session_meets hAbreast.second)
    apply agrees_both hUnwinding hNearer hLength hAbreast hStep hArrival hBoth
    cases source <;> rfl
  · refine agrees_both hUnwinding hNearer hLength hAbreast (line_alike hUnwinding hAlike hLine)
      hArrival hBoth ?_
    rw [(line_quiet hLine s).2, (line_quiet hLine t).2]
    rfl

theorem agrees_arrives {arrival : Arrival} {length : Nat} (hUnwinding : Unwinding source part)
    (hNearer : AgreeNearer source part fates length)
    (hLength : hs.length + ks.length < length)
    (hAbreast : Abreast source part fates made steps s (h :: hs) t (k :: ks))
    (hFirst : Arrives source s h arrival) (hSecond : Arrives source t k arrival) :
    Agrees source part s (h :: hs) t (k :: ks) := by
  have hAlike := hAbreast.alike
  have hArrival := (arrives_arrival hFirst).trans (arrives_arrival hSecond).symm
  have hNext := (arrives_next hFirst).trans (arrives_next hSecond).symm
  cases hFirst with
  | start hFresh =>
      cases hSecond with
      | start hFreshToo =>
          have hStep := hUnwinding.start hAlike hFresh hFreshToo
            (session_meets hAbreast.first) (session_meets hAbreast.second)
          exact agrees_both hUnwinding hNearer hLength hAbreast hStep hArrival hNext rfl
  | @order _ order hOrder _ hEffects _ hSame =>
      cases hSecond with
      | order hOrderToo _ hEffectsToo _ hSameToo =>
          have hSource : order.source = source := by
            have hFilter := (Option.filter_eq_some_iff.mp hOrder).2
            simpa using hFilter
          have hSend := hUnwinding.send hAlike hSource
          have hStep : StepAlike source part ⟨s, h⟩ ⟨t, k⟩ := by
            refine ⟨?_, by rw [hEffects, hEffectsToo]⟩
            show part (s.happen h) = part (t.happen k)
            rw [hUnwinding.same hSame, hUnwinding.same hSameToo, hSend.1]
          apply agrees_both hUnwinding hNearer hLength hAbreast hStep hArrival hNext
          rw [hOrder, hOrderToo, Option.map_some, Option.map_some, hSend.2 h k]
  | @stepUp line hLine _ _ =>
      cases hSecond with
      | @stepUp other hOther _ _ =>
          rw [hLine, Option.some.injEq] at hOther
          subst hOther
          refine agrees_both hUnwinding hNearer hLength hAbreast
            (line_alike hUnwinding hAlike hLine) hArrival hNext ?_
          rw [(line_quiet hLine s).2, (line_quiet hLine t).2]
          rfl

/-- Both have come to a scene that concerns the loop, and it is the same kind of scene. -/
theorem agrees_comes {length : Nat} (hUnwinding : Unwinding source part)
    (hNearer : AgreeNearer source part fates length)
    (hLength : hs.length + ks.length + 1 < length)
    (hAbreast : Abreast source part fates made steps s (h :: hs) t (k :: ks))
    (hFirst : Comes source s h) (hSecond : Comes source t k) :
    Agrees source part s (h :: hs) t (k :: ks) := by
  have hAlike := hAbreast.alike
  have hNextBoth := alike_next hUnwinding hAlike
  have hNow := hUnwinding.now hAlike.part
  have hBoth : hs.length + ks.length < length := by omega
  cases hFirst with
  | next hNext =>
      cases hSecond with
      | next hOther =>
          rw [← hNextBoth, hNext, Option.some.injEq] at hOther
          subst hOther
          exact agrees_next hUnwinding hNearer hBoth hAbreast hNext
      | arrival hArrives => exact (next_first hUnwinding hAbreast hNext hArrives).elim
      | wait _ hDone =>
          rw [IsDone, ← hNextBoth, hNext] at hDone
          cases hDone
  | arrival hArrives =>
      cases hSecond with
      | next hNext =>
          exact (next_first hUnwinding (abreast_symm hAbreast) hNext hArrives).elim
      | arrival hOther =>
          have hSame := arrives_same hAbreast hArrives hOther
          subst hSame
          exact agrees_arrives hUnwinding hNearer hBoth hAbreast hArrives hOther
      | wait hLater _ =>
          exact (wait_first hUnwinding (abreast_symm hAbreast) hLater hArrives).elim
  | @wait soon hSoon hDone =>
      cases hSecond with
      | next hNext =>
          rw [IsDone, hNextBoth, hNext] at hDone
          cases hDone
      | arrival hArrives => exact (wait_first hUnwinding hAbreast hSoon hArrives).elim
      | @wait late hLate _ =>
          rcases Nat.le_total soon late with hOrder | hOrder
          · exact agrees_waits hUnwinding hNearer hLength hSoon hOrder hAbreast
          · exact agrees_symm (agrees_waits hUnwinding hNearer (by omega) hLate hOrder
              (abreast_symm hAbreast))

/-- A session that is over has no scene left in the other one that concerns the loop. -/
theorem agrees_over (hUnwinding : Unwinding source part)
    (hAbreast : Abreast source part fates made steps s [] t (k :: ks))
    (hComes : Comes source t k) : False := by
  have hMoment := hAbreast.moment
  have hNext := alike_next hUnwinding hAbreast.alike
  cases hComes with
  | @next turn hTurn =>
      have hIsNext : (Scene.mk t (.turn turn)).isNext source = true := beq_iff_eq.mpr hTurn
      rw [hTurn] at hNext
      have hSteps := congrArg Moment.steps hMoment
      rw [scenes_cons, stepsTaken, hIsNext, if_pos rfl] at hSteps
      have hFewer : (s.moment source steps).steps = some steps := by
        rw [Monitor.moment, hNext, Option.map_some]
      rcases Option.map_eq_some_iff.mp (hSteps.symm.trans hFewer) with ⟨_, _, hSame⟩
      have hMore := stepsTaken_le source (steps + 1) ((t.happen (.turn turn)).scenes ks)
      omega
  | arrival hArrives =>
      have hArrivals := hAbreast.arrivals
      rw [arrivals_first hArrives] at hArrivals
      cases hArrivals
  | @wait moment hLater _ =>
      have hNow := hUnwinding.now hAbreast.alike.part
      have hEnd : s.now = (t.after (.wait moment :: ks)).now := congrArg Moment.now hMoment
      have hLate : moment ≤ (t.after (.wait moment :: ks)).now :=
        Nat.le_trans (Nat.le_max_right t.now moment) (now_after (t.happen (.wait moment)) ks)
      omega

theorem agrees_all (hUnwinding : Unwinding source part) (length : Nat) :
    AgreeNearer source part fates length := by
  induction length with
  | zero =>
      intro made steps s hs t ks hLength
      cases hLength
  | succ length ih =>
      intro made steps s hs t ks hLength hAbreast
      have hNearer : AgreeNearer source part fates (hs.length + ks.length) :=
        fun made steps s hs t ks hShorter => ih made steps s hs t ks (by omega)
      cases hs with
      | nil =>
          cases ks with
          | nil => exact ⟨hAbreast.alike.part, rfl⟩
          | cons k ks =>
              have hOrderly := session_orderly hAbreast.second
              rcases scene_cases hAbreast.alike.second hOrderly with hUntouched | hTouches
              · refine agrees_symm (agrees_untouched hUntouched (hNearer _ _ _ _ _ _ ?_
                  (abreast_untouched hUnwinding (abreast_symm hAbreast) hUntouched)))
                simp
              · exact (agrees_over hUnwinding hAbreast (touches_comes hOrderly hTouches)).elim
      | cons h hs =>
          have hOrderly := session_orderly hAbreast.first
          rcases scene_cases hAbreast.alike.first hOrderly with hUntouched | hFirst
          · refine agrees_untouched hUntouched (hNearer _ _ _ _ _ _ ?_
              (abreast_untouched hUnwinding hAbreast hUntouched))
            simp
          · have hComes := touches_comes hOrderly hFirst
            cases ks with
            | nil => exact (agrees_over hUnwinding (abreast_symm hAbreast) hComes).elim
            | cons k ks =>
                have hOther := session_orderly hAbreast.second
                rcases scene_cases hAbreast.alike.second hOther with hUntouched | hSecond
                · refine agrees_symm (agrees_untouched hUntouched (hNearer _ _ _ _ _ _ ?_
                    (abreast_untouched hUnwinding (abreast_symm hAbreast) hUntouched)))
                  simp
                  omega
                · refine agrees_comes hUnwinding hNearer ?_ hAbreast hComes
                    (touches_comes hOther hSecond)
                  simp
                  omega

/-- Two sessions that are the same to a loop come to the same end by the same deeds. -/
theorem abreast_agrees (hUnwinding : Unwinding source part)
    (hAbreast : Abreast source part fates made steps s hs t ks) : Agrees source part s hs t ks :=
  agrees_all hUnwinding (hs.length + ks.length + 1) _ _ _ _ _ _ (Nat.lt_succ_self _) hAbreast

end Abreast

end Monitor
end TubMonitor
