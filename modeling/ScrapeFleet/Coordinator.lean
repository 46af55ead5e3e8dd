import ScrapeFleet.Collection
import ScrapeFleet.Discovery
import ScrapeFleet.Explore.Scrape
import ScrapeFleet.Explore.Explorer
import ScrapeFleet.Fleet
import ScrapeFleet.Plan
import ScrapeFleet.Report.Snapshot

/-!
The coordinator: everything that is kept from one cycle to the next.

A cycle reads the shards in the pool, plans, sends every changeable shard its
assignment, and changes the size of the pool.  A reload replaces what comes from the
configuration, one part after another; shards and the settings of planning stay as they
were at the start.
-/

namespace ScrapeFleet

structure Coordinator (ρ : Type) where
  config : Config.Loaded
  targets : TargetSets
  settings : SortedMap String ScrapeSettings
  fleet : Fleet ρ
  explorer : Explorer
  retry : Duration
  planner : Planner
  snapshot : Snapshot := {}

namespace Coordinator

inductive Fault where
  | config (error : Config.LoadError)
  | discovery (fault : Discovery.Fault)
  | fleet (fault : Fleet.Fault)
  deriving DecidableEq, Repr

def Fault.message : Fault → String
  | .config e => e.message
  | .discovery f => f.message
  | .fleet f => f.message

def Fault.ofConfig (f : Config.Fault) : Fault := .config (.invalid f)

variable {ρ : Type}

/-! ## Starting -/

def shardsOf (connect : String → ρ) (c : Config) : List (Shard ρ) :=
  c.shards.map (fun s =>
    { id := s.id, group := ReplicaGroup.ofEndpoints (s.replicas.map connect) })

def start (c : Config.Loaded) (shards : List (Shard ρ)) (draws : Draws) :
    Except Fault (Coordinator ρ) := do
  let targets ← (Discovery.ofConfig c.config).mapError .discovery
  let fleet ← (Fleet.ofShards shards).mapError .fleet
  let settings ← (Scrape.settings c.config).mapError .ofConfig
  let retry ← c.config.explore.retry.mapError .ofConfig
  let policy ← c.config.coordinator.policy.mapError .ofConfig
  let explorer := Explorer.ofQueueSize c.config.explore.queueSize
  pure { config := c, targets, settings, fleet, explorer, retry, planner := { policy, draws } }

/-! ## Cycles -/

/-- Sends a changeable shard the assignment that was planned; a failure shows in the next
cycle. -/
def sendAssignment [Endpoint ρ] (s : Shard ρ) (planned : ShardState) : Shard ρ :=
  if planned.changeable then (s.updateTargets planned.assignment).2 else s

def cycle [Endpoint ρ] (now : Nat) (c : Coordinator ρ) :
    Except Fleet.Fault Snapshot × Coordinator ρ :=
  if c.fleet.pool.isEmpty then (.error .emptyPool, c)
  else
    let explorer := c.explorer.updateTargets c.targets.active
    let (pool, shards) := Collection.collect c.config c.fleet.pool
    let plan := c.planner.plan Explorer.lookup now c.targets.active pool explorer
    let shards := shards.zipWith sendAssignment plan.pool
    let snapshot : Snapshot := {
      targets := c.targets
      statuses := plan.globalStatus
      shards := plan.pool.map (·.summary)
      desiredShards := plan.desiredShards
      needSpace := plan.needSpace
      transfers := plan.transfers
      cycles := c.snapshot.cycles + 1
      completedAt := some now }
    (.ok snapshot, { c with
      fleet := (c.fleet.update shards).rescale plan.desiredShards
      explorer := plan.explored
      planner := plan.planner
      snapshot })

/-! ## Exploring -/

/-- Samples the target of the first token in the queue at time `nowMs`, in milliseconds;
`exchange` is what comes of a request to an address. -/
def sampleNext (exchange : String → Http.Request → Http.Exchange) (nowMs : Nat)
    (c : Coordinator ρ) : Coordinator ρ :=
  match c.explorer.dequeue with
  | (none, explorer) => { c with explorer }
  | (some (k, t), explorer) =>
    let outcome :=
      ((Scrape.scrape c.settings exchange t).map Int.ofNat).mapError ScrapeError.message
    { c with explorer := explorer.finish k nowMs 0 outcome }

def retryAll (c : Coordinator ρ) : Coordinator ρ :=
  { c with explorer := c.explorer.waiting.foldl Explorer.retry c.explorer }

/-! ## Reloading -/

/-- A step of a reload.  It may fail, and what it has changed by then stays changed. -/
abbrev ReloadStep (ρ α : Type) := ExceptT Fault (StateM (Coordinator ρ)) α

def applySettings (config : Config) : ReloadStep ρ Unit := do
  let settings ← MonadExcept.ofExcept ((Scrape.settings config).mapError .ofConfig)
  modify fun c => { c with settings }

def applyToExplorer (config : Config) : ReloadStep ρ Unit := do
  applySettings config
  modify fun c =>
    { c with explorer := c.explorer.retainJobs (fun job => (config.job? job).isSome) }

def reloadSteps (file : Option ByteArray) : ReloadStep ρ Config.Loaded := do
  let config ← MonadExcept.ofExcept ((Config.loadFile file).mapError .config)
  let targets ← MonadExcept.ofExcept ((Discovery.ofConfig config.config).mapError .discovery)
  applyToExplorer config.config
  modify fun c => { c with targets }
  modify fun c => { c with config }
  pure config

/-- Reloads the configuration.  The coordinator after it is what the steps have left, whether
they all succeeded or not. -/
def reload (file : Option ByteArray) (c : Coordinator ρ) :
    Except Fault Config.Loaded × Coordinator ρ :=
  (reloadSteps file).run.run c

end Coordinator

end ScrapeFleet
