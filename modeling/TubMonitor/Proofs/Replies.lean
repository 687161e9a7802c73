import TubMonitor.Monitor.Gateway

/-!
# Replies

Every call is answered in its own kind, whether it comes through or fails, so a loop
that has made a call always gets a reply it can read.
-/

namespace TubMonitor
namespace Monitor

/-- The reply is of the kind that the call asks for. -/
inductive Call.Fits : Call -> Reply -> Prop where
  | temperatures (readings : Sensors.Readings) :
      Fits (.sensors .temperatures) (.sensors (.temperatures readings))
  | leak (outcome : Except Fault Bool) : Fits (.sensors .leak) (.sensors (.level outcome))
  | pumpStatus (outcome : Except Fault Bool) :
      Fits (.sensors .pumpStatus) (.sensors (.level outcome))
  | switch (device : Sensors.Device) (on : Bool) (outcome : Except Fault Unit) :
      Fits (.sensors (.switch device on)) (.sensors (.switched outcome))
  | saveSample (room water : Option Float) (outcome : Except Fault Temperature.Sample) :
      Fits (.store (.saveSample room water)) (.store (.sample outcome))
  | latestEntry (outcome : Except Fault (Option Ozone.Entry)) :
      Fits (.store .latestEntry) (.store (.latestEntry outcome))
  | startEntry (start : Time.Instant) (minutes : Nat) (outcome : Except Fault Ozone.Entry) :
      Fits (.store (.startEntry start minutes)) (.store (.entry outcome))
  | stopEntry (id : Int) (outcome : Except Fault Ozone.Entry) :
      Fits (.store (.stopEntry id)) (.store (.entry outcome))
  | setStatus (id : Int) (status : String) (outcome : Except Fault Ozone.Entry) :
      Fits (.store (.setStatus id status)) (.store (.entry outcome))
  | latestRecord (outcome : Except Fault (Option Leak.Record)) :
      Fits (.store .latestRecord) (.store (.latestRecord outcome))
  | createRecord (detected : Time.Instant) (outcome : Except Fault Leak.Record) :
      Fits (.store (.createRecord detected)) (.store (.record outcome))
  | clearRecord (id : Int) (outcome : Except Fault Leak.Record) :
      Fits (.store (.clearRecord id)) (.store (.record outcome))

theorem failed_fits (fault : Fault) (call : Call) : call.Fits (call.failed fault) := by
  cases call with
  | sensors request => cases request <;> constructor
  | store request => cases request <;> constructor

theorem bank_fits (bank : Sensors.Bank) (c : Conditions) (request : Sensors.Request) :
    (Call.sensors request).Fits (c.dim (.sensors (bank.answer request).1)) := by
  cases request <;> constructor

theorem store_fits (store : Store) (now : Time.Instant) (request : Store.Request) :
    (Call.store request).Fits (.store (store.answer now request).1) := by
  cases store <;> cases request <;> constructor

theorem answer_fits (o : Outside) (now : Nat) (call : Call) :
    call.Fits (o.answer now call).1 := by
  unfold Outside.answer
  split
  · exact failed_fits ..
  · cases call with
    | sensors request => exact bank_fits o.bank o.conditions request
    | store request => exact store_fits o.store (Time.instantOf now) request

/-- A call that fails changes nothing, and no call changes the conditions. -/
theorem answer_cases (o : Outside) (now : Nat) (call : Call) :
    (exists fault, o.conditions.fault call.kind = some fault ∧
        o.answer now call = (call.failed fault, o)) ∨
      (o.conditions.fault call.kind = none ∧
        ((exists request, call = .sensors request ∧
            o.answer now call =
              (o.conditions.dim (.sensors (o.bank.answer request).1),
                { o with bank := (o.bank.answer request).2 })) ∨
          (exists request, call = .store request ∧
            o.answer now call =
              (.store (o.store.answer (Time.instantOf now) request).1,
                { o with store := (o.store.answer (Time.instantOf now) request).2 })))) := by
  unfold Outside.answer
  cases hFault : o.conditions.fault call.kind with
  | some fault => exact Or.inl ⟨fault, rfl, rfl⟩
  | none =>
      refine Or.inr ⟨rfl, ?_⟩
      cases call with
      | sensors request => exact Or.inl ⟨request, rfl, rfl⟩
      | store request => exact Or.inr ⟨request, rfl, rfl⟩

@[simp] theorem answer_conditions (o : Outside) (now : Nat) (call : Call) :
    (o.answer now call).2.conditions = o.conditions := by
  rcases answer_cases o now call with ⟨_, _, h⟩ | ⟨_, ⟨_, _, h⟩ | ⟨_, _, h⟩⟩ <;> rw [h]

theorem answer_store_bank (o : Outside) (now : Nat) (request : Store.Request) :
    (o.answer now (.store request)).2.bank = o.bank := by
  unfold Outside.answer
  split <;> rfl

end Monitor
end TubMonitor
