import ScrapeFleet.Discovery
import ScrapeFleet.Plan.Pool

/-!
What the last cycle saw and decided.
-/

namespace ScrapeFleet

structure Snapshot where
  targets : TargetSets := {}
  statuses : StatusMap := ∅
  shards : List ShardSummary := []
  desiredShards : Int := 0
  needSpace : Int := 0
  transfers : Nat := 0
  cycles : Nat := 0
  /-- When the last cycle was completed, in seconds of Unix time. -/
  completedAt : Option Nat := none
  deriving DecidableEq, Repr, Inhabited

end ScrapeFleet
