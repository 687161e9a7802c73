import TubMonitor.Proofs.InOrder

/-!
# Open mailboxes

A mailbox is open as long as its loop is still to be started, and while it goes on.
-/

namespace TubMonitor
namespace Monitor

/-- The loop is still to be started or has not ended. -/
def GoesOn (s : Monitor) (hasEnded : Bool) : Prop :=
  s.isFresh = true ∨ (s.isStarted = true ∧ hasEnded = false)

structure Doors (s : Monitor) : Prop where
  ozone : s.ozoneBox.isOpen = true ↔ s.GoesOn s.ozone.state.hasEnded
  target : s.targetBox.isOpen = true ↔ s.GoesOn s.temperature.state.hasEnded

theorem doors_assemble (config : Config) (now : Nat) (outside : Outside)
    (sink : Option Notice.Sink) : Doors (assemble config now outside sink) :=
  ⟨iff_of_true rfl (Or.inl rfl), iff_of_true rfl (Or.inl rfl)⟩

theorem doors_of_eq {s next : Monitor} (hDoors : Doors s)
    (hOzoneBox : next.ozoneBox.isOpen = s.ozoneBox.isOpen)
    (hTargetBox : next.targetBox.isOpen = s.targetBox.isOpen)
    (hStarted : next.isStarted = s.isStarted) (hCancelled : next.isCancelled = s.isCancelled)
    (hOzone : next.ozone.state.hasEnded = s.ozone.state.hasEnded)
    (hTemperature : next.temperature.state.hasEnded = s.temperature.state.hasEnded) :
    Doors next := by
  have hFresh : next.isFresh = s.isFresh := by rw [isFresh, isFresh, hStarted, hCancelled]
  rcases hDoors with ⟨hOzoneDoor, hTargetDoor⟩
  rw [GoesOn] at hOzoneDoor hTargetDoor
  constructor
  · rwa [GoesOn, hOzoneBox, hFresh, hStarted, hOzone]
  · rwa [GoesOn, hTargetBox, hFresh, hStarted, hTemperature]

theorem sent_doors {s next : Monitor} {order : Console.Order} {ticket : Nat}
    (hDoors : Doors s) (hSent : s.send order = (.ok ticket, next)) : Doors next := by
  rcases (send_ok hSent).2 with ⟨_, _, _, _, hBox, rfl⟩ | ⟨_, _, _, _, hBox, rfl⟩
  · have hOpen := Mailbox.isOpen_send hBox
    exact doors_of_eq hDoors (hOpen.2.trans hOpen.1.symm) rfl rfl rfl rfl rfl
  · have hOpen := Mailbox.isOpen_send hBox
    exact doors_of_eq hDoors rfl (hOpen.2.trans hOpen.1.symm) rfl rfl rfl rfl

theorem handOzone_doors {s served : Monitor} {event : Ozone.Event} (hOrder : InOrder s)
    (hDoors : Doors s) (hServes : OzoneServes s event served) :
    Doors (served.handOzone event) := by
  have ⟨hStarted, hRunning⟩ := ozone_goesOn hOrder hServes
  have hOpen : served.ozoneBox.isOpen = true := by
    rw [ozoneServes_door hServes]
    exact hDoors.ozone.mpr (Or.inr ⟨hStarted, hRunning⟩)
  rcases ozoneServes_eq hServes with ⟨_, _, rfl⟩
  constructor
  · rw [handOzone_ozoneBox, GoesOn, isFresh, handOzone_isStarted, handOzone_ozone]
    dsimp only
    rw [hStarted]
    cases hEnded : (s.ozone.state.step s.now event).1.hasEnded with
    | true => simp [Mailbox.closed]
    | false => simpa using hOpen
  · rw [handOzone_targetBox, GoesOn, isFresh, handOzone_isStarted, handOzone_isCancelled,
      handOzone_temperature]
    exact hDoors.target

theorem handTemperature_doors {s served : Monitor} {event : Temperature.Event}
    (hOrder : InOrder s) (hDoors : Doors s) (hServes : TemperatureServes s event served) :
    Doors (served.handTemperature event) := by
  have ⟨hStarted, hRunning⟩ := temperature_goesOn hOrder hServes
  have hOpen : served.targetBox.isOpen = true := by
    rw [temperatureServes_door hServes]
    exact hDoors.target.mpr (Or.inr ⟨hStarted, hRunning⟩)
  rcases temperatureServes_eq hServes with ⟨_, _, rfl⟩
  constructor
  · rw [handTemperature_ozoneBox, GoesOn, isFresh, handTemperature_isStarted,
      handTemperature_isCancelled, handTemperature_ozone]
    exact hDoors.ozone
  · rw [handTemperature_targetBox, GoesOn, isFresh, handTemperature_isStarted,
      handTemperature_temperature]
    dsimp only
    rw [hStarted]
    cases hEnded : (s.temperature.state.step s.now event).1.hasEnded with
    | true => simp [Mailbox.closed]
    | false => simpa using hOpen

theorem start_doors {s : Monitor} (hDoors : Doors s) (hFresh : s.isFresh = true) :
    Doors s.start.2 := by
  have hOzone := hDoors.ozone.mpr (Or.inl hFresh)
  have hTarget := hDoors.target.mpr (Or.inl hFresh)
  rw [start_fresh hFresh]
  dsimp only
  split
  · next hEnded =>
      constructor
      · exact iff_of_true hOzone (Or.inr ⟨rfl, rfl⟩)
      · simp [GoesOn, isFresh, hEnded, Mailbox.closed]
  · next hEnded =>
      constructor
      · exact iff_of_true hOzone (Or.inr ⟨rfl, rfl⟩)
      · exact iff_of_true hTarget (Or.inr ⟨rfl, by simpa using hEnded⟩)

theorem cancel_doors {s : Monitor} (hDoors : Doors s) : Doors s.cancel := by
  cases hFresh : s.isFresh with
  | true =>
      have hStarted : s.isStarted = false := by
        simp only [isFresh, Bool.and_eq_true, Bool.not_eq_true'] at hFresh
        exact hFresh.1
      rw [cancel_fresh hFresh]
      constructor
      · simp [GoesOn, isFresh, hStarted, Mailbox.closed]
      · simp [GoesOn, isFresh, hStarted, Mailbox.closed]
  | false =>
      rw [cancel_stale hFresh]
      rcases hDoors with ⟨hOzone, hTarget⟩
      rw [GoesOn, hFresh] at hOzone hTarget
      constructor
      · simpa [GoesOn, isFresh] using hOzone
      · simpa [GoesOn, isFresh] using hTarget

theorem doors_happen {s : Monitor} (hOrder : InOrder s) (hDoors : Doors s) (h : Happening) :
    Doors (s.happen h) := by
  have hHappens := happens s h
  generalize hNext : s.happen h = next at hHappens
  cases hHappens with
  | idle hNothing => exact hDoors
  | ozone hEvent => exact handOzone_doors hOrder hDoors (ozoneEvent_serves hEvent)
  | leak hEvent =>
      rcases leakServes_eq (leakEvent_serves hEvent) with ⟨_, rfl⟩
      refine doors_of_eq hDoors ?_ ?_ ?_ ?_ ?_ ?_ <;> simp
  | temperature hEvent =>
      exact handTemperature_doors hOrder hDoors (temperatureEvent_serves hEvent)
  | notices hStarted hRunning hActs =>
      cases hActs
      all_goals exact doors_of_eq hDoors rfl rfl rfl rfl rfl rfl
  | ozoneLine hRefill =>
      exact doors_of_eq hDoors (Mailbox.isOpen_refill hRefill) rfl rfl rfl rfl rfl
  | targetLine hRefill =>
      exact doors_of_eq hDoors rfl (Mailbox.isOpen_refill hRefill) rfl rfl rfl rfl
  | console hConsole hEvent hStep hActs =>
      rcases consoleEvent_outside hConsole hEvent with ⟨outside, rfl, _⟩
      have hServed : Doors { s with outside := outside } :=
        doors_of_eq hDoors rfl rfl rfl rfl rfl rfl
      cases hActs with
      | sent hSent => exact doors_of_eq (sent_doors hServed hSent) rfl rfl rfl rfl rfl rfl
      | _ => exact doors_of_eq hDoors rfl rfl rfl rfl rfl rfl
  | start hFresh => exact start_doors hDoors hFresh
  | cancel => exact cancel_doors hDoors
  | sent hSent => exact sent_doors hDoors hSent
  | startRefused _ | joinEarly | join _ _ | refused _ | converse _ | leave | shift _ | wait _ =>
      exact doors_of_eq hDoors rfl rfl rfl rfl rfl rfl

theorem doors_after {s : Monitor} (hOrder : InOrder s) (hDoors : Doors s)
    (hs : List Happening) : Doors (s.after hs) := by
  have hBoth := after_invariant (fun next => InOrder next ∧ Doors next)
    ⟨hOrder, hDoors⟩
    (fun before h hBefore => ⟨inOrder_happen hBefore.1 h, doors_happen hBefore.1 hBefore.2 h⟩) hs
  exact hBoth.2

end Monitor
end TubMonitor
