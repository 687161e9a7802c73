import TubMonitor.Proofs.InOrder
import TubMonitor.Proofs.Isolation.Sessions

/-!
# What leaves a loop alone

Every scene of an orderly session is either one of the few that concern a loop - a step
of its own, its line moving, something arriving for it, time passing - or else leaves
its part of the state as it was, whatever the other loops, the console, the sink and the
world outside are about.
-/

namespace TubMonitor
namespace Monitor

/-- Everything is in order, and nothing has been cancelled. -/
structure Sound (s : Monitor) : Prop where
  order : InOrder s
  going : s.isCancelled = false

theorem sound_assemble (config : Config) (now : Nat) (outside : Outside)
    (sink : Option Notice.Sink) : Sound (assemble config now outside sink) :=
  ⟨inOrder_assemble config now outside sink, rfl⟩

theorem sound_happen {s : Monitor} {h : Happening} (hSound : Sound s) (hGoing : h ≠ .cancel) :
    Sound (s.happen h) := by
  refine ⟨inOrder_happen hSound.order h, ?_⟩
  have hBefore := hSound.going
  have hActs := acts s h
  generalize hNext : s.happen h = next at hActs
  cases hActs with
  | aside hAside => exact hAside.isCancelled.trans hBefore
  | ozone hEvent =>
      rcases ozoneServes_eq (ozoneEvent_serves hEvent) with ⟨_, _, rfl⟩
      rwa [handOzone_isCancelled]
  | leak hEvent =>
      rcases leakServes_eq (leakEvent_serves hEvent) with ⟨_, rfl⟩
      rwa [handLeak_isCancelled]
  | temperature hEvent =>
      rcases temperatureServes_eq (temperatureEvent_serves hEvent) with ⟨_, _, rfl⟩
      rwa [handTemperature_isCancelled]
  | start hFresh =>
      rw [start_fresh hFresh]
      dsimp only
      split <;> exact hBefore
  | cancel => exact absurd rfl hGoing
  | join hCancelled hOver => exact hBefore

def SameLoop (s next : Monitor) : Notice.Source -> Prop
  | .ozone => next.ozone = s.ozone ∧ next.ozoneBox = s.ozoneBox
  | .leak => next.leak = s.leak
  | .temperature => next.temperature = s.temperature ∧ next.targetBox = s.targetBox

/-- The part of the state that is a loop's own is the same. -/
structure Same (source : Notice.Source) (s next : Monitor) : Prop where
  now : next.now = s.now
  loop : SameLoop s next source
  rows : next.outside.store.only source = s.outside.store.only source

theorem sameLoop_of_eq {s next : Monitor} (source : Notice.Source)
    (hOzone : next.ozone = s.ozone) (hOzoneBox : next.ozoneBox = s.ozoneBox)
    (hLeak : next.leak = s.leak) (hTemperature : next.temperature = s.temperature)
    (hTargetBox : next.targetBox = s.targetBox) : SameLoop s next source := by
  cases source with
  | ozone => exact ⟨hOzone, hOzoneBox⟩
  | leak => exact hLeak
  | temperature => exact ⟨hTemperature, hTargetBox⟩

theorem same_trans {source : Notice.Source} {s middle next : Monitor}
    (hFirst : Same source s middle) (hSecond : Same source middle next) :
    Same source s next where
  now := hSecond.now.trans hFirst.now
  loop := by
    have hFirstLoop := hFirst.loop
    have hSecondLoop := hSecond.loop
    cases source with
    | ozone =>
        exact ⟨hSecondLoop.1.trans hFirstLoop.1, hSecondLoop.2.trans hFirstLoop.2⟩
    | leak =>
        show next.leak = s.leak
        exact Eq.trans hSecondLoop hFirstLoop
    | temperature =>
        exact ⟨hSecondLoop.1.trans hFirstLoop.1, hSecondLoop.2.trans hFirstLoop.2⟩
  rows := hSecond.rows.trans hFirst.rows

theorem same_refl (source : Notice.Source) (s : Monitor) : Same source s s :=
  ⟨rfl, sameLoop_of_eq source rfl rfl rfl rfl rfl, rfl⟩

/-!
## Rows
-/

theorem underWay_source {s : Monitor} {source : Notice.Source} {pending : Pending}
    {request : Store.Request} (hOrder : InOrder s)
    (hPending : s.underWay? source = some pending) (hStore : pending.call = .store request) :
    request.source = source := by
  cases source with
  | ozone =>
      have hCall := hOrder.ozone.call
      have hNow : s.ozone.pending = some pending := hPending
      rw [hNow, Option.map_some, hStore] at hCall
      unfold Ozone.Controller.call? at hCall
      cases hPhase : s.ozone.state.phase with
      | labelling run ending stop =>
          cases hRow : run.id <;> simp_all [Store.Request.source]
      | _ => simp_all [Store.Request.source]
  | leak =>
      have hExpects := hOrder.leak.expects
      have hNow : s.leak.pending = some pending := hPending
      rw [hNow, Option.map_some, hStore] at hExpects
      cases hExpects <;> rfl
  | temperature =>
      have hExpects := hOrder.temperature.expects
      have hNow : s.temperature.pending = some pending := hPending
      rw [hNow, Option.map_some, hStore] at hExpects
      cases hExpects
      rfl

theorem answer_rows (o : Outside) (now : Nat) {call : Call} {source : Notice.Source}
    (h : forall request, call = .store request -> request.source ≠ source) :
    (o.answer now call).2.store.only source = o.store.only source := by
  rcases answer_cases o now call with
    ⟨_, _, hAnswer⟩ | ⟨_, ⟨_, _, hAnswer⟩ | ⟨request, hCall, hAnswer⟩⟩
  · rw [hAnswer]
  · rw [hAnswer]
  · rw [hAnswer]
    exact Store.answer_apart o.store (Time.instantOf now) (h request hCall)

theorem answer_rows_other {s : Monitor} {source other : Notice.Source} {pending : Pending}
    (hOrder : InOrder s) (hPending : s.underWay? other = some pending)
    (hOther : source ≠ other) :
    (s.outside.answer s.now pending.call).2.store.only source =
      s.outside.store.only source := by
  apply answer_rows s.outside s.now
  intro request hStore hSource
  exact hOther (hSource.symm.trans (underWay_source hOrder hPending hStore))

theorem answer_rows_console {s : Monitor} {source : Notice.Source} {pending : Pending}
    (hOrder : InOrder s) (hAsks : s.ConsoleAsks pending) :
    (s.outside.answer s.now pending.call).2.store.only source =
      s.outside.store.only source := by
  apply answer_rows s.outside s.now
  intro request hStore
  have hPump := hOrder.console pending hAsks
  rw [hStore] at hPump
  cases hPump

/-!
## Turns of the other loops
-/

section Turns

variable {s served : Monitor} {source : Notice.Source}

theorem ozone_same {event : Ozone.Event} (hOrder : InOrder s)
    (hServes : OzoneServes s event served) (hOther : source ≠ .ozone) :
    Same source s (served.handOzone event) := by
  have hRows : served.outside.store.only source = s.outside.store.only source := by
    cases hServes with
    | @reply pending hPending hDue =>
        have hUnderWay : s.underWay? .ozone = some pending := hPending
        exact answer_rows_other hOrder hUnderWay hOther
    | _ => rfl
  rcases ozoneServes_eq hServes with ⟨_, _, rfl⟩
  refine ⟨by simp, ?_, by simpa using hRows⟩
  cases source with
  | ozone => exact absurd rfl hOther
  | leak => exact handOzone_leak ..
  | temperature => exact ⟨handOzone_temperature .., handOzone_targetBox ..⟩

theorem leak_same {event : Leak.Event} (hOrder : InOrder s)
    (hServes : LeakServes s event served) (hOther : source ≠ .leak) :
    Same source s (served.handLeak event) := by
  have hRows : served.outside.store.only source = s.outside.store.only source := by
    cases hServes with
    | @reply pending hPending hDue =>
        have hUnderWay : s.underWay? .leak = some pending := hPending
        exact answer_rows_other hOrder hUnderWay hOther
    | _ => rfl
  rcases leakServes_eq hServes with ⟨_, rfl⟩
  refine ⟨by simp, ?_, by simpa using hRows⟩
  cases source with
  | ozone => exact ⟨handLeak_ozone .., handLeak_ozoneBox ..⟩
  | leak => exact absurd rfl hOther
  | temperature => exact ⟨handLeak_temperature .., handLeak_targetBox ..⟩

theorem temperature_same {event : Temperature.Event} (hOrder : InOrder s)
    (hServes : TemperatureServes s event served) (hOther : source ≠ .temperature) :
    Same source s (served.handTemperature event) := by
  have hRows : served.outside.store.only source = s.outside.store.only source := by
    cases hServes with
    | @reply pending hPending hDue =>
        have hUnderWay : s.underWay? .temperature = some pending := hPending
        exact answer_rows_other hOrder hUnderWay hOther
    | _ => rfl
  rcases temperatureServes_eq hServes with ⟨_, _, rfl⟩
  refine ⟨by simp, ?_, by simpa using hRows⟩
  cases source with
  | ozone => exact ⟨handTemperature_ozone .., handTemperature_ozoneBox ..⟩
  | leak => exact handTemperature_leak ..
  | temperature => exact absurd rfl hOther

end Turns

/-!
## Scenes that do not concern a loop
-/

structure Untouched (source : Notice.Source) (scene : Scene) : Prop where
  same : Same source scene.before scene.after
  effects : scene.effects source = []
  arrival : scene.arrival? source = none
  next : scene.isNext source = false

inductive Touches (source : Notice.Source) (scene : Scene) : Prop where
  /-- The loop does what is next. -/
  | next {turn : Turn} (hTurn : scene.happening = .turn turn)
      (hNext : scene.before.nextTurn? source = some turn) : Touches source scene
  /-- The line at its mailbox moves before the loop does what is next. -/
  | stepUp {line : Turn} (hLine : source.lineTurn? = some line)
      (hTurn : scene.happening = .turn line)
      (hArrival : scene.arrival? source = some .stepUp)
      (hNext : scene.before.nextTurn? source = some source.turn) : Touches source scene
  | start (hStart : scene.happening = .start) (hFresh : scene.before.isFresh = true) :
      Touches source scene
  /-- Whoever sends a command, the loop and its mailbox see no more than that it is sent. -/
  | order {order : Console.Order} (hOrder : scene.ownOrder? source = some order)
      (hArrival : scene.arrival? source = some (.order order))
      (hEffects : scene.effects source = []) (hNext : scene.isNext source = false)
      (hSame : Same source (scene.before.send order).2 scene.after) : Touches source scene
  | wait {moment : Nat} (hWait : scene.happening = .wait moment)
      (hLater : scene.before.now < moment) : Touches source scene

theorem effects_turn_none {s : Monitor} {turn : Turn} (source : Notice.Source)
    (hOzone : (Scene.mk s (.turn turn)).ozoneEvent? = none)
    (hLeak : (Scene.mk s (.turn turn)).leakEvent? = none)
    (hTemperature : (Scene.mk s (.turn turn)).temperatureEvent? = none) :
    (Scene.mk s (.turn turn)).effects source = [] := by
  cases source with
  | ozone => simp [Scene.effects, hOzone]
  | leak => simp [Scene.effects, hLeak]
  | temperature => simp [Scene.effects, hTemperature]

theorem arrival_turn {s : Monitor} {turn : Turn} {source : Notice.Source}
    (hLine : (Scene.mk s (.turn turn)).stepsUp source = false) :
    (Scene.mk s (.turn turn)).arrival? source =
      ((Scene.mk s (.turn turn)).ownOrder? source).map .order := by
  rw [Scene.arrival?, hLine]
  rfl

/-- The turns that concern a loop are its own and that of its line. -/
def isTurnOf (source : Notice.Source) (turn : Turn) : Bool :=
  turn == source.turn || source.lineTurn? == some turn

section Other

variable {s : Monitor} {turn : Turn} {source : Notice.Source}

theorem stepsUp_other (h : isTurnOf source turn = false ∨ s.turn? turn = none) :
    (Scene.mk s (.turn turn)).stepsUp source = false := by
  rcases h with hOther | hIdle
  · simp_all [Scene.stepsUp, isTurnOf]
  · simp [Scene.stepsUp, hIdle]

theorem nextTurn_some (h : s.nextTurn? source = some turn) :
    isTurnOf source turn = true ∧ (s.turn? turn).isSome = true := by
  unfold nextTurn? at h
  split at h
  · next hCan =>
      cases h
      exact ⟨by simp [isTurnOf], hCan⟩
  · rw [Option.filter_eq_some_iff] at h
    exact ⟨by simp [isTurnOf, h.1], h.2⟩

theorem isNext_other (h : isTurnOf source turn = false ∨ s.turn? turn = none) :
    (Scene.mk s (.turn turn)).isNext source = false := by
  cases hNext : (Scene.mk s (.turn turn)).isNext source with
  | false => rfl
  | true =>
      have hTurn := nextTurn_some (beq_iff_eq.mp hNext)
      rcases h with hOther | hIdle
      · rw [hOther] at hTurn
        cases hTurn.1
      · rw [hIdle] at hTurn
        cases hTurn.2

end Other

theorem nextTurn_own {s : Monitor} {source : Notice.Source}
    (h : (s.turn? source.turn).isSome = true) : s.nextTurn? source = some source.turn :=
  if_pos h

theorem nextTurn_line {s : Monitor} {source : Notice.Source} {line : Turn}
    (hLine : source.lineTurn? = some line) (hCan : (s.turn? line).isSome = true)
    (hFree : (s.turn? source.turn).isSome = false) : s.nextTurn? source = some line := by
  simp [nextTurn?, hLine, hCan, hFree]

/-- The line moves because it is next to or because it may before that. -/
theorem line_touches {s : Monitor} {source : Notice.Source} {line : Turn}
    (hLine : source.lineTurn? = some line) (hCan : (s.turn? line).isSome = true) :
    Touches source ⟨s, .turn line⟩ := by
  cases hBusy : (s.turn? source.turn).isSome with
  | false => exact .next rfl (nextTurn_line hLine hCan hBusy)
  | true =>
      refine .stepUp hLine rfl ?_ (nextTurn_own hBusy)
      simp [Scene.arrival?, Scene.stepsUp, hLine, hCan, hBusy]

theorem untouched_turn {s next : Monitor} {turn : Turn} {source : Notice.Source}
    (hNext : s.happen (.turn turn) = next) (hSame : Same source s next)
    (hOther : isTurnOf source turn = false ∨ s.turn? turn = none)
    (hOrder : (Scene.mk s (.turn turn)).ownOrder? source = none)
    (hEffects : (Scene.mk s (.turn turn)).effects source = []) :
    Untouched source ⟨s, .turn turn⟩ where
  same := by
    show Same source s (s.happen (.turn turn))
    rw [hNext]
    exact hSame
  effects := hEffects
  arrival := by
    rw [arrival_turn (stepsUp_other hOther), hOrder]
    rfl
  next := isNext_other hOther

theorem ownOrder_none {scene : Scene} (source : Notice.Source) (h : scene.order? = none) :
    scene.ownOrder? source = none := by
  rw [Scene.ownOrder?, h]
  rfl

theorem ownOrder_other {scene : Scene} {source : Notice.Source} {order : Console.Order}
    (h : scene.order? = some order) (hOther : order.source ≠ source) :
    scene.ownOrder? source = none := by
  simp [Scene.ownOrder?, h, hOther]

theorem ownOrder_own {scene : Scene} {order : Console.Order} (h : scene.order? = some order) :
    scene.ownOrder? order.source = some order := by
  simp [Scene.ownOrder?, h]

theorem send_same {s next : Monitor} {order : Console.Order} {ticket : Nat}
    {source : Notice.Source} (hSent : s.send order = (.ok ticket, next))
    (hOther : order.source ≠ source) : Same source s next := by
  rcases (send_ok hSent).2 with ⟨_, _, rfl, _, _, rfl⟩ | ⟨_, _, rfl, _, _, rfl⟩
  · refine ⟨rfl, ?_, rfl⟩
    cases source with
    | ozone => exact absurd rfl hOther
    | leak => rfl
    | temperature => exact ⟨rfl, rfl⟩
  · refine ⟨rfl, ?_, rfl⟩
    cases source with
    | ozone => exact ⟨rfl, rfl⟩
    | leak => rfl
    | temperature => exact absurd rfl hOther

theorem send_keeps {s next : Monitor} {order : Console.Order} {ticket : Nat}
    (hSent : s.send order = (.ok ticket, next)) : next.outside = s.outside := by
  rcases (send_ok hSent).2 with ⟨_, _, _, _, _, rfl⟩ | ⟨_, _, _, _, _, rfl⟩
  · rfl
  · rfl

theorem order_touches {s : Monitor} {h : Happening} {order : Console.Order}
    {source : Notice.Source} (hSends : (Scene.mk s h).order? = some order)
    (hEffects : (Scene.mk s h).effects source = [])
    (hSame : Same source (s.send order).2 (s.happen h))
    (hOther : order.source ≠ source -> Same source s (s.send order).2) :
    Untouched source ⟨s, h⟩ ∨ Touches source ⟨s, h⟩ := by
  have hArrival : (Scene.mk s h).arrival? source =
      ((Scene.mk s h).ownOrder? source).map .order := by
    cases h with
    | start => cases hSends
    | turn turn =>
        cases turn with
        | console => exact arrival_turn (stepsUp_other (Or.inl (by cases source <;> rfl)))
        | _ => cases hSends
    | _ => rfl
  have hNext : (Scene.mk s h).isNext source = false := by
    cases h with
    | turn turn =>
        cases turn with
        | console => exact isNext_other (Or.inl (by cases source <;> rfl))
        | _ => cases hSends
    | _ => rfl
  by_cases hOwn : order.source = source
  · subst hOwn
    have hOrder := ownOrder_own hSends
    exact Or.inr (.order hOrder (by rw [hArrival, hOrder]; rfl) hEffects hNext hSame)
  · refine Or.inl ⟨same_trans (hOther hOwn) hSame, hEffects, ?_, hNext⟩
    rw [hArrival, ownOrder_other hSends hOwn]
    rfl

/-!
## The console
-/

section Console

variable {s next : Monitor} {source : Notice.Source}

theorem consoleActs_touches {served : Monitor} {console : Worker Console.Session}
    {event : Console.Event} {state : Console.Session} {effects : List Console.Effect}
    (hOrder : InOrder s) (hConsole : s.console = some console)
    (hEvent : s.consoleEvent? console = some (event, served))
    (hStep : console.state.step event = (state, effects))
    (hActs : ConsoleActs served state effects next)
    (hNext : s.happen (.turn .console) = next) :
    Untouched source ⟨s, .turn .console⟩ ∨ Touches source ⟨s, .turn .console⟩ := by
  have hSends : (Scene.mk s (.turn .console)).order? = orderIn effects := by
    simp [Scene.order?, consoleOrder?, hConsole, hEvent, hStep]
  have hEffects : (Scene.mk s (.turn .console)).effects source = [] :=
    effects_turn_none source rfl rfl rfl
  rcases consoleEvent_outside hConsole hEvent with ⟨outside, rfl, hOutside⟩
  have hRows : outside.store.only source = s.outside.store.only source := by
    cases hOutside with
    | same hSame => rw [hSame]
    | shift hShift => cases hShift
    | answered hAsks hAnswer =>
        rw [hAnswer]
        exact answer_rows_console hOrder hAsks
  cases hActs with
  | none | print text | call hPump =>
      left
      refine untouched_turn hNext ⟨rfl, ?_, hRows⟩
        (Or.inl (by cases source <;> rfl)) (ownOrder_none source hSends) hEffects
      exact sameLoop_of_eq source rfl rfl rfl rfl rfl
  | @sent order ticket sent hSent =>
      rw [send_outside, Prod.mk.injEq] at hSent
      rcases hSent with ⟨hTicket, rfl⟩
      have hSent : s.send order = (.ok ticket, (s.send order).2) := Prod.ext hTicket rfl
      have hSame : Same source (s.send order).2 (s.happen (.turn .console)) := by
        rw [hNext]
        refine ⟨rfl, sameLoop_of_eq source rfl rfl rfl rfl rfl, ?_⟩
        rw [send_keeps hSent]
        exact hRows
      exact order_touches hSends hEffects hSame (send_same hSent)
  | @refused order fault hRefused =>
      rw [send_outside, Prod.mk.injEq] at hRefused
      have hRefused : s.send order = (.error fault, (s.send order).2) :=
        Prod.ext hRefused.1 rfl
      have hStays : (s.send order).2 = s := send_error hRefused
      have hSame : Same source (s.send order).2 (s.happen (.turn .console)) := by
        rw [hNext, hStays]
        exact ⟨rfl, sameLoop_of_eq source rfl rfl rfl rfl rfl, hRows⟩
      refine order_touches hSends hEffects hSame (fun _ => ?_)
      rw [hStays]
      exact same_refl source s

end Console

/-!
## All scenes
-/

section Turns

variable {s : Monitor} {source : Notice.Source}

theorem loop_touches (owner : Notice.Source) (hCan : (s.turn? owner.turn).isSome = true)
    (hSame : source ≠ owner -> Same source s (s.happen (.turn owner.turn))) :
    Untouched source ⟨s, .turn owner.turn⟩ ∨ Touches source ⟨s, .turn owner.turn⟩ := by
  by_cases hOwn : source = owner
  · subst hOwn
    exact Or.inr (.next rfl (nextTurn_own hCan))
  · left
    apply untouched_turn rfl (hSame hOwn)
    · left
      cases source <;> cases owner <;> first | rfl | exact absurd rfl hOwn
    · apply ownOrder_none
      cases owner <;> rfl
    · cases source <;> cases owner <;> first | rfl | exact absurd rfl hOwn

theorem line_scene (owner : Notice.Source) {line : Turn} (hLine : owner.lineTurn? = some line)
    (hCan : (s.turn? line).isSome = true)
    (hSame : source ≠ owner -> Same source s (s.happen (.turn line))) :
    Untouched source ⟨s, .turn line⟩ ∨ Touches source ⟨s, .turn line⟩ := by
  by_cases hOwn : source = owner
  · subst hOwn
    exact Or.inr (line_touches hLine hCan)
  · left
    apply untouched_turn rfl (hSame hOwn)
    · left
      cases owner <;> cases hLine <;> cases source <;> first | rfl | exact absurd rfl hOwn
    · apply ownOrder_none
      cases owner <;> cases hLine <;> rfl
    · cases owner <;> cases hLine <;> cases source <;> rfl

end Turns

theorem scene_cases {s : Monitor} {h : Happening} {source : Notice.Source} (hSound : Sound s)
    (hOrderly : (Scene.mk s h).Orderly source) :
    Untouched source ⟨s, h⟩ ∨ Touches source ⟨s, h⟩ := by
  have hOrder := hSound.order
  have hHappens := happens s h
  generalize hNext : s.happen h = next at hHappens
  cases hHappens with
  | @idle turn hIdle =>
      have hAside := idle_aside hIdle
      exact Or.inl (untouched_turn hNext (same_refl source _) (Or.inr hIdle)
        (ownOrder_none source (idle_order hIdle))
        (effects_turn_none source hAside.ozoneEvent hAside.leakEvent hAside.temperatureEvent))
  | ozone hEvent =>
      refine loop_touches .ozone (by simp [Notice.Source.turn, turn?, ozoneTurn?, hEvent]) ?_
      intro hOther
      exact hNext ▸ ozone_same hOrder (ozoneEvent_serves hEvent) hOther
  | leak hEvent =>
      refine loop_touches .leak (by simp [Notice.Source.turn, turn?, leakTurn?, hEvent]) ?_
      intro hOther
      exact hNext ▸ leak_same hOrder (leakEvent_serves hEvent) hOther
  | temperature hEvent =>
      refine loop_touches .temperature
        (by simp [Notice.Source.turn, turn?, temperatureTurn?, hEvent]) ?_
      intro hOther
      exact hNext ▸ temperature_same hOrder (temperatureEvent_serves hEvent) hOther
  | notices hStarted hRunning hActs =>
      refine Or.inl (untouched_turn hNext ?_ (Or.inl (by cases source <;> rfl))
        (ownOrder_none source rfl) (effects_turn_none source rfl rfl rfl))
      cases hActs
      all_goals exact ⟨rfl, sameLoop_of_eq source rfl rfl rfl rfl rfl, rfl⟩
  | ozoneLine hRefill =>
      refine line_scene .ozone rfl (by simp [turn?, ozoneLineTurn?, hRefill]) ?_
      intro hOther
      rw [hNext]
      refine ⟨rfl, ?_, rfl⟩
      cases source with
      | ozone => exact absurd rfl hOther
      | leak => rfl
      | temperature => exact ⟨rfl, rfl⟩
  | targetLine hRefill =>
      refine line_scene .temperature rfl (by simp [turn?, targetLineTurn?, hRefill]) ?_
      intro hOther
      rw [hNext]
      refine ⟨rfl, ?_, rfl⟩
      cases source with
      | ozone => exact ⟨rfl, rfl⟩
      | leak => rfl
      | temperature => exact absurd rfl hOther
  | console hConsole hEvent hStep hActs =>
      exact consoleActs_touches hOrder hConsole hEvent hStep hActs hNext
  | start hFresh => exact Or.inr (.start rfl hFresh)
  | startRefused hStale =>
      left
      refine ⟨?_, ?_, ?_, rfl⟩
      · show Same source s (s.happen .start)
        rw [hNext]
        exact same_refl source _
      · cases source <;> simp [Scene.effects, Scene.temperatureEvent?, hStale]
      · simp [Scene.arrival?, Scene.stepsUp, hStale]
  | cancel => exact absurd rfl hOrderly.going
  | joinEarly =>
      left
      refine ⟨?_, ?_, ?_, rfl⟩
      · show Same source s (s.happen .join)
        rw [hNext]
        exact same_refl source _
      · cases source <;> rfl
      · rfl
  | join hCancelled hOver =>
      rw [hSound.going] at hCancelled
      cases hCancelled
  | @sent order ticket next hSent =>
      have hEffects : (Scene.mk s (.send order)).effects source = [] := by
        cases source <;> rfl
      have hSame : Same source (s.send order).2 (s.happen (.send order)) :=
        same_refl source _
      apply order_touches rfl hEffects hSame
      intro hOther
      rw [hSent]
      exact send_same hSent hOther
  | @refused order fault hRefused =>
      have hEffects : (Scene.mk s (.send order)).effects source = [] := by
        cases source <;> rfl
      have hSame : Same source (s.send order).2 (s.happen (.send order)) :=
        same_refl source _
      refine order_touches rfl hEffects hSame (fun _ => ?_)
      rw [hRefused]
      exact same_refl source s
  | converse lines | leave =>
      left
      refine ⟨?_, ?_, rfl, rfl⟩
      · exact ⟨rfl, sameLoop_of_eq source rfl rfl rfl rfl rfl, rfl⟩
      · cases source <;> rfl
  | shift outside =>
      left
      refine ⟨?_, ?_, rfl, rfl⟩
      · exact ⟨rfl, sameLoop_of_eq source rfl rfl rfl rfl rfl, hOrderly.rows outside rfl⟩
      · cases source <;> rfl
  | wait moment =>
      by_cases hLater : s.now < moment
      · exact Or.inr (.wait rfl hLater)
      · left
        refine ⟨⟨?_, sameLoop_of_eq source rfl rfl rfl rfl rfl, rfl⟩, ?_, rfl, rfl⟩
        · exact Nat.max_eq_left (Nat.le_of_not_lt hLater)
        · cases source <;> rfl

end Monitor
end TubMonitor
