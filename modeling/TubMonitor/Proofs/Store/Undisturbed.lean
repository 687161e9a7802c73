import TubMonitor.Proofs.Isolation.Unwinding
import TubMonitor.Proofs.Store.Requests
import TubMonitor.Proofs.Time.Order

/-!
# Whose calls change the rows

The rows of a table change by the calls of its loop that come through, or by someone
else from outside, and in no other way.
-/

namespace TubMonitor

def Store.Answer.isOk : Store.Answer -> Bool
  | .sample outcome => outcome.isOk
  | .entry outcome => outcome.isOk
  | .latestEntry outcome => outcome.isOk
  | .record outcome => outcome.isOk
  | .latestRecord outcome => outcome.isOk

theorem Store.failed_not_ok (request : Store.Request) (fault : Fault) :
    (request.failed fault).isOk = false := by
  cases request <;> rfl

namespace Monitor

/-!
## Calls
-/

theorem answer_stored {o : Outside} {now : Nat} {request : Store.Request} {answer : Store.Answer}
    (hReply : (o.answer now (.store request)).1 = .store answer) (hOk : answer.isOk = true) :
    answer = (o.store.answer (Time.instantOf now) request).1 ∧
      (o.answer now (.store request)).2.store =
        (o.store.answer (Time.instantOf now) request).2 := by
  rcases answer_cases o now (.store request) with
    ⟨fault, _, hAnswer⟩ | ⟨_, ⟨_, hOther, _⟩ | ⟨other, hSame, hAnswer⟩⟩
  · rw [hAnswer] at hReply
    cases hReply
    rw [Store.failed_not_ok] at hOk
    cases hOk
  · cases hOther
  · cases hSame
    rw [hAnswer] at hReply ⊢
    cases hReply
    exact ⟨rfl, rfl⟩

theorem answer_sensors_store (o : Outside) (now : Nat) (request : Sensors.Request) :
    (o.answer now (.sensors request)).2.store = o.store := by
  unfold Outside.answer
  split <;> rfl

/-!
## Replies
-/

/-- The reply that the scene hands to the loop of a source, if it does. -/
def Scene.reply? (scene : Scene) : Notice.Source -> Option Reply
  | .ozone =>
      match scene.ozoneEvent? with
      | some (.reply reply) => some reply
      | _ => none
  | .leak =>
      match scene.leakEvent? with
      | some (.reply reply) => some reply
      | _ => none
  | .temperature =>
      match scene.temperatureEvent? with
      | some (.reply reply) => some reply
      | _ => none

/-- If the store has been asked for the loop, it has not failed. -/
def Scene.Stored (source : Notice.Source) (scene : Scene) : Prop :=
  forall answer, scene.reply? source = some (.store answer) -> answer.isOk = true

def Scene.stores (source : Notice.Source) (scene : Scene) : Bool :=
  match scene.reply? source with
  | some (.store answer) => answer.isOk
  | _ => true

theorem stored_of_stores {source : Notice.Source} {scene : Scene}
    (h : scene.stores source = true) : scene.Stored source := by
  intro answer hReply
  rw [Scene.stores, hReply] at h
  exact h

/-!
## Happenings
-/

/-- Nobody else writes in the table of a loop. -/
def Scene.Undisturbed (source : Notice.Source) (scene : Scene) : Prop :=
  forall outside, scene.happening = .shift outside ->
    outside.store.only source = scene.before.outside.store.only source

/-- What lies outside is not changed from outside. -/
def Happening.isOwn : Happening -> Bool
  | .shift _ => false
  | _ => true

theorem undisturbed_of_isOwn {scene : Scene} (source : Notice.Source)
    (h : scene.happening.isOwn = true) : scene.Undisturbed source := by
  intro outside hShift
  rw [hShift] at h
  cases h

theorem undisturbed_own {s : Monitor} {hs : List Happening} {scene : Scene}
    (source : Notice.Source) (hOwn : hs.all Happening.isOwn = true) (h : scene ∈ s.scenes hs) :
    scene.Undisturbed source := by
  rcases mem_scenes h with ⟨first, rest, hSplit, _⟩
  apply undisturbed_of_isOwn source
  rw [hSplit] at hOwn
  simp_all

theorem stored_own {s : Monitor} {hs : List Happening} {scene : Scene} (source : Notice.Source)
    (hStores : (s.scenes hs).all (Scene.stores source) = true)
    (hOwn : hs.all Happening.isOwn = true) (h : scene ∈ s.scenes hs) :
    scene.Stored source ∧ scene.Undisturbed source :=
  ⟨stored_of_stores (List.all_eq_true.mp hStores scene h), undisturbed_own source hOwn h⟩

theorem outsideAside_rows {s : Monitor} {h : Happening} {outside : Outside}
    {source : Notice.Source} (hOrder : InOrder s) (hAside : OutsideAside s h outside)
    (hUndisturbed : (Scene.mk s h).Undisturbed source) :
    outside.store.only source = s.outside.store.only source := by
  cases hAside with
  | same hSame => rw [hSame]
  | shift hShift => exact hUndisturbed outside hShift
  | answered hAsks hAnswer =>
      rw [hAnswer]
      exact answer_rows_console hOrder hAsks

/-- Whatever happens but a turn of its loop leaves the rows of a table as they are. -/
theorem rows_elsewhere {s : Monitor} {h : Happening} {source : Notice.Source}
    (hOrder : InOrder s) (hUndisturbed : (Scene.mk s h).Undisturbed source)
    (hOther : h ≠ .turn source.turn) :
    (s.happen h).outside.store.only source = s.outside.store.only source := by
  generalize hNext : s.happen h = next
  have hActs : Acts s h next := hNext ▸ acts s h
  cases hActs with
  | aside hAside => exact outsideAside_rows hOrder hAside.outside hUndisturbed
  | ozone hEvent =>
      refine (ozone_same hOrder (ozoneEvent_serves hEvent) ?_).rows
      rintro rfl
      exact hOther rfl
  | leak hEvent =>
      refine (leak_same hOrder (leakEvent_serves hEvent) ?_).rows
      rintro rfl
      exact hOther rfl
  | temperature hEvent =>
      refine (temperature_same hOrder (temperatureEvent_serves hEvent) ?_).rows
      rintro rfl
      exact hOther rfl
  | start hFresh => rw [start_outside hFresh]
  | cancel => rw [cancel_outside]
  | join hCancelled hOver => rfl

theorem inCalendar_scenes {s : Monitor} {hs : List Happening}
    (hCalendar : (Time.instantOf (s.after hs).now).inCalendar = true) {scene : Scene}
    (h : scene ∈ s.scenes hs) : (Time.instantOf scene.before.now).inCalendar = true := by
  rcases mem_scenes h with ⟨first, rest, hSplit, hBefore⟩
  rw [hSplit, after_append] at hCalendar
  rw [hBefore]
  exact Time.inCalendar_of_le (now_after _ _) hCalendar

end Monitor
end TubMonitor
