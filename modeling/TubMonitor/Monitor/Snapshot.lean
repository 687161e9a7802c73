import TubMonitor.Records

/-!
# Snapshots

A snapshot is the state of the monitor as one reader sees it at one instant, together
with the whole seconds left of the ozone run at that instant.
-/

namespace TubMonitor
namespace Monitor

structure Snapshot where
  /-- The readings of the last sample, each absent if its probe failed. -/
  room : Option Float
  water : Option Float
  sampled : Option Time.Instant
  ozone : Ozone.RunState
  remaining : Option Int
  leakPresent : Bool
  latestLeak : Option Leak.Record
  target : Option Temperature.Target
deriving DecidableEq, Repr

namespace Snapshot

def blank : Snapshot :=
  { room := none
    water := none
    sampled := none
    ozone := Ozone.RunState.idle
    remaining := none
    leakPresent := false
    latestLeak := none
    target := none }

def toJson (s : Snapshot) : Json :=
  Json.object
    [ ("room_temp_f", Json.ofOption Json.ofFloat s.room)
    , ("water_temp_f", Json.ofOption Json.ofFloat s.water)
    , ("last_sample_at", Json.ofOption Time.Instant.toJson s.sampled)
    , ("ozone", s.ozone.toJson)
    , ("ozone_remaining_secs", Json.ofOption Json.integer s.remaining)
    , ("leak_present", .bool s.leakPresent)
    , ("latest_leak", Json.ofOption Leak.Record.toJson s.latestLeak)
    , ("target", Json.ofOption Temperature.Target.toJson s.target) ]

end Snapshot

end Monitor
end TubMonitor
