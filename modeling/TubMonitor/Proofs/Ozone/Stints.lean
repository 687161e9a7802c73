import TubMonitor.Proofs.Ozone.Log
import TubMonitor.Proofs.Ozone.Tales

/-!
# Runs as the log tells them

What the log says of the beginning of the loop, of a run that has begun and of one that
is over: every call with its answer, and the messages in their place.
-/

namespace TubMonitor
namespace Ozone

open Controller (offWarning onFailureStatus)
open Time (instantOf)

/-!
## The beginning of the loop
-/

structure Entrance where
  asked : Nat
  loaded : Nat
  latest : Except Fault (Option Entry)
  secured : Nat
  went : Except Fault Unit

def looking (asked : Nat) : Log :=
  [made asked (.store .latestEntry)]

def securing (loaded : Nat) (latest : Except Fault (Option Entry)) : Log :=
  [ heard loaded (.store (.latestEntry latest))
  , made loaded (.sensors (.switch .ozone false)) ]

/-- The generator has answered that it is off or that it may still be on. -/
def answeredOff (moment : Nat) (went : Except Fault Unit) : Log :=
  heard moment (.sensors (.switched went)) :: deeds moment (offWarning went)

def Entrance.lines (e : Entrance) : Log :=
  looking e.asked ++ securing e.loaded e.latest ++ answeredOff e.secured e.went

/-!
## Runs that have begun
-/

def filing (minutes asked : Nat) : Log :=
  [made asked (.store (.startEntry (instantOf asked) minutes))]

def lighting (filed : Nat) (entry : Except Fault Entry) : Log :=
  [ heard filed (.store (.entry entry))
  , made filed (.sensors (.switch .ozone true)) ]

def answeredOn (switched : Nat) (came : Except Fault Unit) : Log :=
  [heard switched (.sensors (.switched came))]

def flagging (switched : Nat) (id : Int) (why : Fault) : Log :=
  [made switched (.store (.setStatus id (onFailureStatus why)))]

def failureNote (why : Fault) : String :=
  "Failed to turn ozone on: " ++ why.message

def startNote (minutes : Nat) : String :=
  "Ozone started for " ++ toString minutes ++ " minutes"

def stopNote (ending : Ending) : String :=
  "Ozone stopped: " ++ ending.status

/-- A run that has begun, from the call for its row to the message that it has begun. -/
structure Debut where
  minutes : Nat
  asked : Nat
  filed : Nat
  entry : Except Fault Entry
  switched : Nat
  came : Except Fault Unit
  /-- The answer to the note of a failure, if there is a row to make it in. -/
  flagged : Option (Nat × Except Fault Entry)
  flags : flagged.isSome = (entry.isOk && !came.isOk)
  inTime : asked ≤ (flagged.map Prod.fst).getD switched

namespace Debut

variable (d : Debut)

def row : Option Int :=
  d.entry.toOption.map Entry.id

/-- The generator has failed to come on, which is noted before the run begins. -/
def mishap : Log :=
  match d.came with
  | .ok _ => []
  | .error why =>
      match d.row, d.flagged with
      | some id, some (moment, answer) =>
          flagging d.switched id why ++
            [heard moment (.store (.entry answer)), said moment (failureNote why)]
      | _, _ => [said d.switched (failureNote why)]

def begun : Nat :=
  (d.flagged.map Prod.fst).getD d.switched

def lines : Log :=
  filing d.minutes d.asked ++ lighting d.filed d.entry ++ answeredOn d.switched d.came ++
    d.mishap ++ [said d.begun (startNote d.minutes)]

def status : String :=
  match d.came with
  | .ok _ => runningStatus
  | .error why => onFailureStatus why

def deadline : Nat :=
  d.begun + d.minutes * Time.millisPerMinute

def run : Run :=
  { id := d.row, start := instantOf d.asked, minutes := d.minutes, deadline := d.deadline }

/-- What the panel shows from the moment the run has begun. -/
def published : RunState :=
  RunState.started (instantOf d.asked) d.minutes d.status

end Debut

/-!
## Runs that are over
-/

def leaving (decided : Nat) : Log :=
  [made decided (.sensors (.switch .ozone false))]

def closing (switched : Nat) (id : Int) : Log :=
  [made switched (.store (.stopEntry id))]

def labelling (closed : Nat) (answer : Except Fault Entry) (id : Int) (ending : Ending) : Log :=
  [ heard closed (.store (.entry answer))
  , made closed (.store (.setStatus id ending.status)) ]

/-- The answers to the calls that close the row of a run and give it its last status. -/
structure Closure where
  closed : Nat
  answer : Except Fault Entry
  labelled : Nat
  last : Except Fault Entry

/-- A run that is over, to the message that it is. -/
structure Stint where
  debut : Debut
  ending : Ending
  decided : Nat
  switched : Nat
  went : Except Fault Unit
  /-- The row is closed if there is one. -/
  closure : Option Closure
  closes : closure.isSome = debut.row.isSome

namespace Stint

variable (t : Stint)

def concluded : Nat :=
  (t.closure.map Closure.labelled).getD t.switched

def filed : Log :=
  match t.debut.row, t.closure with
  | some id, some c =>
      closing t.switched id ++ labelling c.closed c.answer id t.ending ++
        [heard c.labelled (.store (.entry c.last))]
  | _, _ => []

def departure : Log :=
  leaving t.decided ++ answeredOff t.switched t.went ++ t.filed ++
    [said t.concluded (stopNote t.ending)]

def lines : Log :=
  t.debut.lines ++ t.departure

def tale : Tale :=
  ⟨t.debut.minutes, some t.ending.status⟩

end Stint

/-- A run expires when its deadline has come, no later if the loop is `prompt`, and is ended by
a command before. -/
structure Timely (prompt : Prop) (d : Debut) (ending : Ending) (decided : Nat) : Prop where
  expired : ending = .expired -> d.deadline ≤ decided
  manual : forall ticket, ending = .manual ticket -> decided < d.deadline
  replaced : forall minutes ticket, ending = .replaced minutes ticket -> decided < d.deadline
  prompt : prompt -> ending = .expired -> decided ≤ d.deadline

theorem timely_still {prompt still : Prop} {d : Debut} {ending : Ending} {decided : Nat}
    (hStill : still -> prompt) (h : Timely prompt d ending decided) :
    Timely still d ending decided :=
  { h with prompt := fun hNow => h.prompt (hStill hNow) }

/-!
## Accounts
-/

/-- The log is that of the beginning, then of the runs that are over and then this `rest`,
of which `told` is told. -/
structure Recounted (log : Log) (tales : List Tale) (prompt : Prop) (stints : List Stint)
    (rest : Log) (told : List Tale) : Prop where
  log : exists entrance : Entrance,
    log = entrance.lines ++ stints.flatMap Stint.lines ++ rest
  tales : tales = stints.map Stint.tale ++ told
  timely : forall t, t ∈ stints -> Timely prompt t.debut t.ending t.decided

section Recounted

variable {log rest : Log} {tales told : List Tale} {prompt : Prop} {stints : List Stint}

theorem recounted_more (more : Log) (h : Recounted log tales prompt stints rest told) :
    Recounted (log ++ more) tales prompt stints (rest ++ more) told := by
  rcases h with ⟨⟨entrance, hLog⟩, hTales, hTimely⟩
  refine ⟨⟨entrance, ?_⟩, hTales, hTimely⟩
  rw [hLog, List.append_assoc]

theorem recounted_still {still : Prop} (hStill : still -> prompt)
    (h : Recounted log tales prompt stints rest told) :
    Recounted log tales still stints rest told :=
  ⟨h.log, h.tales, fun t hMem => timely_still hStill (h.timely t hMem)⟩

theorem finish_stints (status : String) (stints : List Stint) :
    (stints.map Stint.tale).map (Tale.finish status) = stints.map Stint.tale := by
  rw [List.map_map]
  rfl

theorem recounted_decided (ending : Ending) (h : Recounted log tales prompt stints rest told) :
    Recounted log (tell tales (Monitor.cause ending)) prompt stints rest
      (told.map (Tale.finish ending.status) ++ ending.next) := by
  refine ⟨h.log, ?_, h.timely⟩
  rw [tell_cause, h.tales, List.map_append, finish_stints, List.append_assoc]

theorem recounted_over {t : Stint} (hTimely : Timely prompt t.debut t.ending t.decided)
    (h : Recounted log tales prompt stints t.lines (t.tale :: told)) :
    Recounted log tales prompt (stints ++ [t]) [] told := by
  rcases h with ⟨⟨entrance, hLog⟩, hTales, hBefore⟩
  refine ⟨⟨entrance, ?_⟩, ?_, ?_⟩
  · simp [hLog]
  · simp [hTales]
  · intro other hMem
    rcases List.mem_append.mp hMem with hOld | hNew
    · exact hBefore other hOld
    · rw [List.mem_singleton.mp hNew]
      exact hTimely

end Recounted

/-- All that is to be told of a loop: its beginning, the runs that are over and the run in
progress, if there is one. -/
structure Chronicle where
  entrance : Entrance
  stints : List Stint
  current : Option Debut

namespace Chronicle

variable (a : Chronicle)

def lines : Log :=
  a.entrance.lines ++ a.stints.flatMap Stint.lines ++ a.current.toList.flatMap Debut.lines

def tales : List Tale :=
  a.stints.map Stint.tale ++ a.current.toList.map fun d => ⟨d.minutes, none⟩

/-- No run is ended by a deadline that is not its own. -/
def Timely (prompt : Prop) : Prop :=
  forall t, t ∈ a.stints -> Ozone.Timely prompt t.debut t.ending t.decided

end Chronicle

section Chronicle

variable {log rest : Log} {tales told : List Tale} {prompt : Prop} {stints : List Stint}

/-- The log and what is told of it break off somewhere in an account. -/
structure PartOf (a : Chronicle) (log : Log) (tales : List Tale) (prompt : Prop) : Prop where
  lines : log <+: a.lines
  tales : a.tales <+: tales
  timely : a.Timely prompt

theorem recounted_entrance (entrance : Entrance) (hPart : log <+: entrance.lines) :
    exists a, PartOf a log tales prompt := by
  refine ⟨⟨entrance, [], none⟩, ?_, List.nil_prefix, fun t hMem => absurd hMem List.not_mem_nil⟩
  simpa [Chronicle.lines] using hPart

theorem recounted_beginning (d : Debut)
    (h : Recounted log tales prompt stints rest [⟨d.minutes, none⟩]) (hPart : rest <+: d.lines) :
    exists a, PartOf a log tales prompt := by
  rcases h.log with ⟨entrance, hLog⟩
  refine ⟨⟨entrance, stints, some d⟩, ?_, h.tales ▸ List.prefix_rfl, h.timely⟩
  rw [hLog]
  simpa [Chronicle.lines, List.prefix_append_right_inj] using hPart

theorem recounted_ending (t : Stint)
    (h : Recounted log tales prompt stints rest (t.tale :: told))
    (hTimely : Timely prompt t.debut t.ending t.decided) (hPart : rest <+: t.lines) :
    exists a, PartOf a log tales prompt := by
  rcases h.log with ⟨entrance, hLog⟩
  refine ⟨⟨entrance, stints ++ [t], none⟩, ?_, ?_, ?_⟩
  · rw [hLog]
    simpa [Chronicle.lines, List.prefix_append_right_inj] using hPart
  · rw [h.tales]
    simp [Chronicle.tales]
  · intro other hMem
    rcases List.mem_append.mp hMem with hOld | hNew
    · exact h.timely other hOld
    · rw [List.mem_singleton.mp hNew]
      exact hTimely

end Chronicle

end Ozone
end TubMonitor
