import TubMonitor.Monitor.Gateway

/-!
# Effects by kind

The calls, the messages and the acknowledgements among a list of effects, each in
their order.
-/

namespace TubMonitor
namespace Monitor

def Effect.call? : Effect -> Option Call
  | .call request => some request
  | _ => none

def Effect.note? : Effect -> Option String
  | .notify message => some message
  | _ => none

def Effect.ticket? : Effect -> Option Nat
  | .acknowledge ticket => some ticket
  | _ => none

def callsOf (effects : List Effect) : List Call :=
  effects.filterMap Effect.call?

def notesOf (effects : List Effect) : List String :=
  effects.filterMap Effect.note?

def ticketsOf (effects : List Effect) : List Nat :=
  effects.filterMap Effect.ticket?

@[simp] theorem callsOf_nil : callsOf [] = [] := rfl

@[simp] theorem callsOf_call (call : Call) (rest : List Effect) :
    callsOf (.call call :: rest) = call :: callsOf rest := rfl

@[simp] theorem callsOf_notify (text : String) (rest : List Effect) :
    callsOf (.notify text :: rest) = callsOf rest := rfl

@[simp] theorem callsOf_acknowledge (ticket : Nat) (rest : List Effect) :
    callsOf (.acknowledge ticket :: rest) = callsOf rest := rfl

@[simp] theorem callsOf_append (first second : List Effect) :
    callsOf (first ++ second) = callsOf first ++ callsOf second :=
  List.filterMap_append

@[simp] theorem notesOf_nil : notesOf [] = [] := rfl

@[simp] theorem notesOf_call (call : Call) (rest : List Effect) :
    notesOf (.call call :: rest) = notesOf rest := rfl

@[simp] theorem notesOf_notify (text : String) (rest : List Effect) :
    notesOf (.notify text :: rest) = text :: notesOf rest := rfl

@[simp] theorem notesOf_acknowledge (ticket : Nat) (rest : List Effect) :
    notesOf (.acknowledge ticket :: rest) = notesOf rest := rfl

@[simp] theorem notesOf_append (first second : List Effect) :
    notesOf (first ++ second) = notesOf first ++ notesOf second :=
  List.filterMap_append

@[simp] theorem ticketsOf_nil : ticketsOf [] = [] := rfl

@[simp] theorem ticketsOf_call (call : Call) (rest : List Effect) :
    ticketsOf (.call call :: rest) = ticketsOf rest := rfl

@[simp] theorem ticketsOf_notify (text : String) (rest : List Effect) :
    ticketsOf (.notify text :: rest) = ticketsOf rest := rfl

@[simp] theorem ticketsOf_acknowledge (ticket : Nat) (rest : List Effect) :
    ticketsOf (.acknowledge ticket :: rest) = ticket :: ticketsOf rest := rfl

@[simp] theorem ticketsOf_append (first second : List Effect) :
    ticketsOf (first ++ second) = ticketsOf first ++ ticketsOf second :=
  List.filterMap_append

end Monitor
end TubMonitor
