import TubMonitor.Monitor.Basic

/-!
# Turns

At any instant each part of the monitor can take a turn or has nothing to do.  A turn
is one step of a loop or of the console, or the first in line at a mailbox stepping
up.  Every course of events is a sequence of turns and of the passing of time.
-/

namespace TubMonitor
namespace Monitor

/-!
## Carrying out effects
-/

def place (s : Monitor) (call : Call) : Pending × Monitor :=
  ({ call, due := s.now + s.outside.conditions.delay call.kind },
    { s with calls := (s.now, call) :: s.calls })

def carryOut (source : Notice.Source) (progress : Option Pending × Monitor)
    (effect : Effect) : Option Pending × Monitor :=
  let (pending, s) := progress
  match effect with
  | .call call =>
      let (placed, next) := s.place call
      (some placed, next)
  | .notify text => (pending, { s with notices := s.notices.push ⟨source, text⟩ })
  | .acknowledge ticket => (pending, s.conclude ticket (.ok ()))

def carryOutAll (s : Monitor) (source : Notice.Source) (effects : List Effect) :
    Option Pending × Monitor :=
  effects.foldl (carryOut source) (none, s)

def reply? (s : Monitor) (pending : Pending) : Option (Reply × Monitor) :=
  if pending.due ≤ s.now then
    let (reply, outside) := s.outside.answer s.now pending.call
    some (reply, { s with outside })
  else
    none

/-!
## The ozone loop

A cancellation comes before the deadline of a run and the deadline before a command.
-/

def ozoneEvent? (s : Monitor) : Option (Ozone.Event × Monitor) :=
  match s.ozone.pending with
  | some pending => (s.reply? pending).map fun (reply, next) => (.reply reply, next)
  | none =>
      if !s.ozone.state.isWaiting then
        none
      else if s.isCancelled then
        some (.cancel, s)
      else if s.ozone.state.active?.any fun run => run.deadline ≤ s.now then
        some (.deadline, s)
      else
        s.ozoneBox.take?.map fun (letter, ozoneBox) =>
          (.command letter.command letter.ticket, { s with ozoneBox })

def handOzone (s : Monitor) (event : Ozone.Event) : Monitor :=
  let (state, effects) := s.ozone.state.step s.now event
  let (pending, s) := s.carryOutAll .ozone effects
  let s := { s with ozone := { state, pending } }
  if state.hasEnded then s.closeOzoneBox else s

def ozoneTurn? (s : Monitor) : Option Monitor :=
  s.ozoneEvent?.map fun (event, next) => next.handOzone event

/-!
## The leak loop
-/

def isTickDue (s : Monitor) (ticker : Option Time.Ticker) : Bool :=
  ticker.any fun ticker => ticker.isDue s.now

def leakEvent? (s : Monitor) : Option (Leak.Event × Monitor) :=
  match s.leak.pending with
  | some pending => (s.reply? pending).map fun (reply, next) => (.reply reply, next)
  | none =>
      if s.leak.state.ticker?.isNone then
        none
      else if s.isCancelled then
        some (.cancel, s)
      else if s.isTickDue s.leak.state.ticker? then
        some (.tick, s)
      else
        none

def handLeak (s : Monitor) (event : Leak.Event) : Monitor :=
  let (state, effects) := s.leak.state.step s.now event
  let (pending, s) := s.carryOutAll .leak effects
  { s with leak := { state, pending } }

def leakTurn? (s : Monitor) : Option Monitor :=
  s.leakEvent?.map fun (event, next) => next.handLeak event

/-!
## The temperature loop

A cancellation comes before a command and a command before a tick.
-/

def temperatureEvent? (s : Monitor) : Option (Temperature.Event × Monitor) :=
  match s.temperature.pending with
  | some pending => (s.reply? pending).map fun (reply, next) => (.reply reply, next)
  | none =>
      if !s.temperature.state.isWaiting then
        none
      else if s.isCancelled then
        some (.cancel, s)
      else
        match s.targetBox.take? with
        | some (letter, targetBox) =>
            some (.command letter.command letter.ticket, { s with targetBox })
        | none =>
            if s.isTickDue s.temperature.state.ticker? then some (.tick, s) else none

def handTemperature (s : Monitor) (event : Temperature.Event) : Monitor :=
  let (state, effects) := s.temperature.state.step s.now event
  let (pending, s) := s.carryOutAll .temperature effects
  let s := { s with temperature := { state, pending } }
  if state.hasEnded then s.closeTargetBox else s

def temperatureTurn? (s : Monitor) : Option Monitor :=
  s.temperatureEvent?.map fun (event, next) => next.handTemperature event

/-!
## The notification loop
-/

def delivered (s : Monitor) (message : Notice.Message) : Monitor :=
  let delivery : Notice.Delivery :=
    { moment := s.now, subject := s.notices.subject, message }
  { s with deliveries := delivery :: s.deliveries }

def deliveryOutcome (s : Monitor) (message : Notice.Message) : Except Fault Unit :=
  match s.sink.bind fun sink => sink.fault message.text with
  | some fault => .error fault
  | none => .ok ()

def handNotices (s : Monitor) (event : Notice.Event) : Monitor :=
  let (notices, handed) := s.notices.step event
  match handed with
  | some _ =>
      { s with notices, deliveryDue := s.now + (s.sink.map Notice.Sink.delay).getD 0 }
  | none => { s with notices }

def noticesTurn? (s : Monitor) : Option Monitor :=
  if !s.isStarted || s.notices.ended then
    none
  else
    match s.notices.delivering with
    | some message =>
        if s.deliveryDue ≤ s.now then
          some ((s.delivered message).handNotices (.delivered (s.deliveryOutcome message)))
        else
          none
    | none =>
        if s.isCancelled then
          some (s.handNotices .cancel)
        else if s.notices.waiting.isEmpty then
          none
        else
          some (s.handNotices .next)

/-!
## Mailboxes
-/

def ozoneLineTurn? (s : Monitor) : Option Monitor :=
  s.ozoneBox.refill?.map fun ozoneBox => { s with ozoneBox }

def targetLineTurn? (s : Monitor) : Option Monitor :=
  s.targetBox.refill?.map fun targetBox => { s with targetBox }

/-!
## The console
-/

def result? (s : Monitor) (ticket : Nat) : Option Result :=
  s.results.find? fun result => result.ticket == ticket

def consoleEvent? (s : Monitor) (console : Worker Console.Session) :
    Option (Console.Event × Monitor) :=
  match console.pending with
  | some pending => (s.reply? pending).map fun (reply, next) => (.reply reply, next)
  | none =>
      match console.state.phase with
      | .ready => if console.state.lines.isEmpty then none else some (.next s.snapshot, s)
      | .ordering _ =>
          (s.result? s.consoleTicket).map fun result => (.ordered result.outcome, s)
      | _ => none

/-- An order that is refused comes out at once. -/
def carryOutConsole (progress : Option Pending × Monitor) (effect : Console.Effect) :
    Option Pending × Monitor :=
  let (pending, s) := progress
  match effect with
  | .print text => (pending, { s with printed := text :: s.printed })
  | .call call =>
      let (placed, next) := s.place call
      (some placed, next)
  | .order order =>
      match s.send order with
      | (.ok ticket, next) => (pending, { next with consoleTicket := ticket })
      | (.error fault, next) =>
          let refused := next.conclude next.nextTicket (.error fault)
          (pending,
            { refused with
              consoleTicket := refused.nextTicket
              nextTicket := refused.nextTicket + 1 })

def handConsole (s : Monitor) (session : Console.Session) (event : Console.Event) : Monitor :=
  let (state, effects) := session.step event
  let (pending, s) := effects.foldl carryOutConsole (none, s)
  { s with console := some { state, pending } }

def consoleTurn? (s : Monitor) : Option Monitor :=
  match s.console with
  | none => none
  | some console =>
      (s.consoleEvent? console).map fun (event, next) => next.handConsole console.state event

/-!
## All turns
-/

inductive Turn where
  | ozone
  | leak
  | temperature
  | notices
  | ozoneLine
  | targetLine
  | console
deriving DecidableEq, Repr

def Turn.all : List Turn :=
  [.ozone, .leak, .temperature, .notices, .ozoneLine, .targetLine, .console]

def turn? (s : Monitor) : Turn → Option Monitor
  | .ozone => s.ozoneTurn?
  | .leak => s.leakTurn?
  | .temperature => s.temperatureTurn?
  | .notices => s.noticesTurn?
  | .ozoneLine => s.ozoneLineTurn?
  | .targetLine => s.targetLineTurn?
  | .console => s.consoleTurn?

/-- Who is busy goes on; the lines at the mailboxes move when no loop can. -/
def move? (s : Monitor) : Option Monitor :=
  Turn.all.findSome? s.turn?

/-- Nothing can happen before time passes. -/
def isQuiet (s : Monitor) : Bool :=
  s.move?.isNone

end Monitor
end TubMonitor
