import TubMonitor.Monitor.Gateway

/-!
# The notification loop

Messages wait in a queue of limited length and are handed to the sink one at a time.
Who has a message never waits: it is dropped if the queue is full or the loop is over.
Without a sink a message is taken from the queue and goes nowhere.
-/

namespace TubMonitor
namespace Notice

inductive Source where
  | ozone
  | leak
  | temperature
deriving DecidableEq, Repr

structure Message where
  source : Source
  text : String
deriving DecidableEq, Repr

/-- A delivery takes its time and may fail; a failure is passed over. -/
structure Sink where
  delay : Nat
  fault : String → Option Fault

structure Delivery where
  moment : Nat
  subject : String
  message : Message
deriving DecidableEq, Repr

def capacity : Nat := 64

structure Dispatcher where
  subject : String
  hasSink : Bool
  waiting : List Message
  delivering : Option Message
  ended : Bool
deriving DecidableEq, Repr

inductive Event where
  /-- The loop takes the next message. -/
  | next
  | delivered (outcome : Except Fault Unit)
  | cancel

namespace Dispatcher

def start (subject : String) (hasSink : Bool) : Dispatcher :=
  { subject
    hasSink
    waiting := []
    delivering := none
    ended := false }

def accepts (d : Dispatcher) : Bool :=
  !d.ended && decide (d.waiting.length < capacity)

def push (d : Dispatcher) (message : Message) : Dispatcher :=
  if d.accepts then { d with waiting := d.waiting ++ [message] } else d

def step (d : Dispatcher) (event : Event) : Dispatcher × Option Message :=
  match event, d.ended, d.delivering with
  | .cancel, false, none => ({ d with ended := true }, none)
  | .next, false, none =>
      match d.waiting with
      | [] => (d, none)
      | message :: rest =>
          if d.hasSink then
            ({ d with waiting := rest, delivering := some message }, some message)
          else
            ({ d with waiting := rest }, none)
  | .delivered _, false, some _ => ({ d with delivering := none }, none)
  | _, _, _ => (d, none)

theorem length_push_le {d : Dispatcher} (h : d.waiting.length ≤ capacity)
    (message : Message) : (d.push message).waiting.length ≤ capacity := by
  unfold push
  split
  · next hAccepts =>
      simp only [accepts, Bool.and_eq_true, decide_eq_true_eq] at hAccepts
      simp
      omega
  · exact h

end Dispatcher
end Notice
end TubMonitor
