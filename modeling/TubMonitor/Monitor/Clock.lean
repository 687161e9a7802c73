import TubMonitor.Monitor.Supervisor

/-!
# The passing of time

Time stands still while anything can happen.  Then it goes on to the next moment at
which a call, a delivery, a deadline or a tick is due.
-/

namespace TubMonitor
namespace Monitor

/-!
## One instant
-/

/-- More turns than can be taken at one instant. -/
def patience (s : Monitor) : Nat :=
  let commands := s.ozoneBox.pending.length + s.targetBox.pending.length
  let lines := (s.console.map fun console => console.state.lines.length).getD 0
  1000 + 100 * commands + 200 * lines + 4 * s.notices.waiting.length

def settleWithin : Nat → Monitor → Monitor
  | 0, s => s
  | turns + 1, s =>
      match s.move? with
      | some next => settleWithin turns next
      | none => s

def settle (s : Monitor) : Monitor :=
  settleWithin s.patience s

/-!
## The next moment
-/

def pendingDue (worker : Worker σ) : Option Nat :=
  worker.pending.map Pending.due

def consoleDue (s : Monitor) : Option Nat :=
  s.console.bind pendingDue

def noticeDue (s : Monitor) : Option Nat :=
  s.notices.delivering.map fun _ => s.deliveryDue

def dues (s : Monitor) : List Nat :=
  [ pendingDue s.ozone
  , s.ozone.state.active?.map Ozone.Run.deadline
  , pendingDue s.leak
  , s.leak.state.ticker?.map Time.Ticker.due
  , pendingDue s.temperature
  , s.temperature.state.ticker?.map Time.Ticker.due
  , s.noticeDue
  , s.consoleDue ].filterMap id

def nextDue? (s : Monitor) : Option Nat :=
  (s.dues.filter fun due => s.now < due).min?

/-!
## Going on
-/

def run (stop : Monitor → Bool) (target : Nat) (now : Nat) (s : Monitor) : Monitor :=
  let settled := { s with now }.settle
  if stop settled then
    settled
  else
    match settled.nextDue? with
    | none => settled
    | some due =>
        if now < due ∧ due ≤ target then run stop target due settled else settled
termination_by target - now

def advance (s : Monitor) (millis : Nat) : Monitor :=
  let target := s.now + millis
  { s.run (fun _ => false) target s.now with now := target }

/-!
## Waiting for an end

What is waited for happens within a number of calls and deliveries that follow one
another, so the wait has a horizon.
-/

def sinkDelay (s : Monitor) : Nat :=
  (s.sink.map Notice.Sink.delay).getD 0

def horizon (s : Monitor) (more : Nat) : Nat :=
  let underWay :=
    [ pendingDue s.ozone, pendingDue s.leak, pendingDue s.temperature, s.noticeDue
    , s.consoleDue ].filterMap id
  underWay.foldl max s.now + more * (s.outside.conditions.longestDelay + s.sinkDelay)

def callsPerEvent : Nat := 8

def cancelAndWait (s : Monitor) : Monitor :=
  let cancelled := s.cancel
  (cancelled.run isOver (cancelled.horizon (2 * callsPerEvent)) cancelled.now).join

def consoleIsDone (s : Monitor) : Bool :=
  s.console.all fun console => console.state.hasFinished

def converse (s : Monitor) (lines : List String) : List String × Monitor :=
  let begun :=
    { s with console := some ⟨Console.Session.start lines, none⟩, printed := [] }
  let commands := s.ozoneBox.pending.length + s.targetBox.pending.length + lines.length
  let horizon := begun.horizon (callsPerEvent * (commands + 2) * (lines.length + 1))
  let served := begun.run consoleIsDone horizon begun.now
  (served.printed.reverse, { served with console := none, printed := [] })

end Monitor
end TubMonitor
