import TubMonitor.Sensors.Bank
import TubMonitor.Store.Database
import TubMonitor.Time.Ticker

/-!
# Calls to the outside

The loops reach the sensors and the store through calls.  A call may take time and
may fail; what calls of each kind meet with is given by the conditions that hold when
the call is made and when it comes through.  A loop is a state and a step that takes
an event and says what is to be done; it never has more than one call under way.
-/

namespace TubMonitor
namespace Monitor

inductive Call where
  | sensors (request : Sensors.Request)
  | store (request : Store.Request)
deriving DecidableEq, Repr

inductive Reply where
  | sensors (answer : Sensors.Answer)
  | store (answer : Store.Answer)

def Call.failed (fault : Fault) : Call → Reply
  | sensors request => .sensors (request.failed fault)
  | store request => .store (request.failed fault)

/-!
## Kinds of calls
-/

inductive CallKind where
  | temperatures
  | leak
  | pumpOn
  | pumpOff
  | pumpStatus
  | ozoneOn
  | ozoneOff
  | saveSample
  | latestEntry
  | startEntry
  | stopEntry
  | setStatus
  | latestRecord
  | createRecord
  | clearRecord
deriving DecidableEq, Repr

def CallKind.all : List CallKind :=
  [ .temperatures, .leak, .pumpOn, .pumpOff, .pumpStatus, .ozoneOn, .ozoneOff, .saveSample
  , .latestEntry, .startEntry, .stopEntry, .setStatus, .latestRecord, .createRecord
  , .clearRecord ]

def Call.kind : Call → CallKind
  | .sensors .temperatures => .temperatures
  | .sensors .leak => .leak
  | .sensors .pumpStatus => .pumpStatus
  | .sensors (.switch .pump true) => .pumpOn
  | .sensors (.switch .pump false) => .pumpOff
  | .sensors (.switch .ozone true) => .ozoneOn
  | .sensors (.switch .ozone false) => .ozoneOff
  | .store (.saveSample _ _) => .saveSample
  | .store .latestEntry => .latestEntry
  | .store (.startEntry _ _) => .startEntry
  | .store (.stopEntry _) => .stopEntry
  | .store (.setStatus _ _) => .setStatus
  | .store .latestRecord => .latestRecord
  | .store (.createRecord _) => .createRecord
  | .store (.clearRecord _) => .clearRecord

/-!
## Conditions
-/

structure Conditions where
  /-- How long a call of a kind takes. -/
  delay : CallKind → Nat
  /-- What a call of a kind fails with, if it does. -/
  fault : CallKind → Option Fault
  /-- A reading of the temperatures loses the room. -/
  roomFault : Option Fault
  /-- A reading of the temperatures loses the water. -/
  waterFault : Option Fault

namespace Conditions

/-- Every call comes through at once. -/
def fair : Conditions :=
  { delay := fun _ => 0
    fault := fun _ => none
    roomFault := none
    waterFault := none }

def longestDelay (c : Conditions) : Nat :=
  (CallKind.all.map c.delay).foldl max 0

def lose (fault : Option Fault) (reading : Except Fault Float) : Except Fault Float :=
  match fault with
  | some fault => .error fault
  | none => reading

/-- The temperatures have been read; what is lost is lost on the way back. -/
def dim (c : Conditions) : Reply → Reply
  | .sensors (.temperatures readings) =>
      .sensors (.temperatures
        ⟨lose c.roomFault readings.room, lose c.waterFault readings.water⟩)
  | reply => reply

end Conditions

/-!
## The outside
-/

structure Outside where
  bank : Sensors.Bank
  store : Store
  conditions : Conditions

/-- A call that fails changes nothing. -/
def Outside.answer (o : Outside) (now : Nat) (call : Call) : Reply × Outside :=
  match o.conditions.fault call.kind with
  | some fault => (call.failed fault, o)
  | none =>
      match call with
      | .sensors request =>
          let (answer, bank) := o.bank.answer request
          (o.conditions.dim (.sensors answer), { o with bank })
      | .store request =>
          let (answer, store) := o.store.answer (Time.instantOf now) request
          (.store answer, { o with store })

/-!
## Effects
-/

inductive Effect where
  | call (request : Call)
  | notify (message : String)
  /-- The command that bears the ticket has been applied. -/
  | acknowledge (ticket : Nat)
deriving DecidableEq, Repr

end Monitor
end TubMonitor
