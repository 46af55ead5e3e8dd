import ScrapeFleet.Policy
import ScrapeFleet.Plan.Cleanup
import ScrapeFleet.Plan.Shedding
import ScrapeFleet.Plan.Placement
import ScrapeFleet.Plan.Scaling
import ScrapeFleet.Plan.GlobalStatus
import ScrapeFleet.Plan.Assignment

/-!
One planning cycle.

The steps follow one another on one pool: stale entries are dropped, overloaded shards
shed targets, new targets are placed, and then the pool shrinks if there is no unmet
demand and idle shards may go, or grows if there is.
-/

namespace ScrapeFleet

structure Planner where
  policy : Policy
  draws : Draws
  /-- The statuses that the last cycle ended with. -/
  known : StatusMap := ∅
  deriving Repr

namespace Planner

structure Outcome (σ : Type) where
  planner : Planner
  pool : Pool
  explored : σ
  desiredShards : Int
  needSpace : Int
  removed : Nat
  transfers : Nat
  placed : Nat
  globalStatus : StatusMap

/-- First fit as long as no shard is given up, else weighted. -/
def placement (p : Policy) : Placement := if p.maxIdle.isZero then .firstFit else .weighted

def resize (p : Policy) (now : Nat) (needSpace : Int) (pool : Pool) : Pool × Int × Nat :=
  if !p.maxIdle.isZero && needSpace = 0 then
    let down := Scaling.shrink p.maxSeries p.maxIdle.secs now pool
    (down.pool, down.desired, down.transfers)
  else if 0 < needSpace then
    (pool, Scaling.grow pool.changeableCount pool.length needSpace p.maxSeries p.maxShards, 0)
  else (pool, pool.length, 0)

def plan {σ : Type} (lookup : Lookup σ) (now : Nat) (active : TargetsByJob) (planner : Planner)
    (pool : Pool) (explored : σ) : Outcome σ :=
  let p := planner.policy
  let (pool, removed) := Cleanup.run active.hashes pool
  let shed := Shedding.run p.maxSeries pool
  let placed := (placement p).run lookup planner.known p.maxSeries active shed.pool
    planner.draws explored
  let needSpace := Word.add shed.needSpace placed.needSpace
  let (pool, desiredShards, drained) := resize p now needSpace placed.pool
  let globalStatus := GlobalStatus.merge lookup placed.explored active pool
  { planner := { planner with draws := placed.draws, known := globalStatus }
    pool := Assignment.build active pool
    explored := placed.explored
    desiredShards
    needSpace
    removed
    transfers := shed.transfers + drained
    placed := placed.placed
    globalStatus }

end Planner

end ScrapeFleet
