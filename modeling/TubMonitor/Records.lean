import TubMonitor.Json.Slots
import TubMonitor.Temperature.Basic
import TubMonitor.Ozone.Basic
import TubMonitor.Time.StampReader

/-!
# Records

Leak records, and how they, samples, targets, ozone rows and run states are written as
documents, and read back.  Row numbers have 64 bits with a sign, minutes 32 without.
-/

namespace TubMonitor

def rowId? (j : Json) : Option Int :=
  j.integer? (-Int.pow 2 63) (Int.pow 2 63 - 1)

def minutes? (j : Json) : Option Nat :=
  j.natural? (Nat.pow 2 32 - 1)

def instant? (j : Json) : Option Time.Instant :=
  j.string?.bind Time.Instant.read?

def Time.Instant.toJson (t : Time.Instant) : Json :=
  Json.ofString t.stamp

/-!
## Temperatures
-/

namespace Temperature

def Sample.names : List String :=
  ["id", "room_temp_f", "water_temp_f", "timestamp"]

def Sample.toJson (s : Sample) : Json :=
  Json.object
    [ ("id", .integer s.id)
    , ("room_temp_f", Json.ofOption Json.ofFloat s.room)
    , ("water_temp_f", Json.ofOption Json.ofFloat s.water)
    , ("timestamp", s.taken.toJson) ]

def Sample.ofJson? (j : Json) : Option Sample := do
  match ← j.slots? Sample.names with
  | [id, room, water, taken] =>
      let id ← Json.required? rowId? id
      let room ← Json.allowed? Json.float? room
      let water ← Json.allowed? Json.float? water
      let taken ← Json.required? instant? taken
      some { id, room, water, taken }
  | _ => none

def Target.names : List String :=
  ["target_temp_f", "active"]

def Target.toJson (t : Target) : Json :=
  Json.object
    [ ("target_temp_f", Json.ofFloat t.degrees)
    , ("active", .bool t.active) ]

def Target.ofJson? (j : Json) : Option Target := do
  match ← j.slots? Target.names with
  | [degrees, active] =>
      let degrees ← Json.required? Json.float? degrees
      let active ← Json.required? Json.bool? active
      some { degrees, active }
  | _ => none

end Temperature

/-!
## Ozone runs
-/

namespace Ozone

def Entry.names : List String :=
  ["id", "start_time", "end_time", "duration_minutes", "running", "status_message"]

def Entry.toJson (e : Entry) : Json :=
  Json.object
    [ ("id", .integer e.id)
    , ("start_time", e.start.toJson)
    , ("end_time", Json.ofOption Time.Instant.toJson e.stop)
    , ("duration_minutes", .integer e.minutes)
    , ("running", .bool e.running)
    , ("status_message", Json.ofString e.status) ]

def Entry.ofJson? (j : Json) : Option Entry := do
  match ← j.slots? Entry.names with
  | [id, start, stop, minutes, running, status] =>
      let id ← Json.required? rowId? id
      let start ← Json.required? instant? start
      let stop ← Json.allowed? instant? stop
      let minutes ← Json.required? minutes? minutes
      let running ← Json.required? Json.bool? running
      let status ← Json.required? Json.string? status
      some { id, start, stop, minutes, running, status }
  | _ => none

def RunState.names : List String :=
  ["running", "start_time", "end_time", "expected_duration_minutes", "status_message"]

def RunState.toJson (s : RunState) : Json :=
  Json.object
    [ ("running", .bool s.running)
    , ("start_time", Json.ofOption Time.Instant.toJson s.start)
    , ("end_time", Json.ofOption Time.Instant.toJson s.stop)
    , ("expected_duration_minutes", .integer s.minutes)
    , ("status_message", Json.ofString s.status) ]

def RunState.ofJson? (j : Json) : Option RunState := do
  match ← j.slots? RunState.names with
  | [running, start, stop, minutes, status] =>
      let running ← Json.required? Json.bool? running
      let start ← Json.allowed? instant? start
      let stop ← Json.allowed? instant? stop
      let minutes ← Json.required? minutes? minutes
      let status ← Json.required? Json.string? status
      some { running, start, stop, minutes, status }
  | _ => none

end Ozone

/-!
## Leaks

A record is an interval in which a leak was sensed.  It is open until it is cleared.
-/

namespace Leak

structure Record where
  id : Int
  detected : Time.Instant
  cleared : Option Time.Instant
deriving DecidableEq, Repr

def Record.isOpen (r : Record) : Bool :=
  r.cleared.isNone

def Record.names : List String :=
  ["id", "detected_at", "cleared_at"]

def Record.toJson (r : Record) : Json :=
  Json.object
    [ ("id", .integer r.id)
    , ("detected_at", r.detected.toJson)
    , ("cleared_at", Json.ofOption Time.Instant.toJson r.cleared) ]

def Record.ofJson? (j : Json) : Option Record := do
  match ← j.slots? Record.names with
  | [id, detected, cleared] =>
      let id ← Json.required? rowId? id
      let detected ← Json.required? instant? detected
      let cleared ← Json.allowed? instant? cleared
      some { id, detected, cleared }
  | _ => none

end Leak

end TubMonitor
