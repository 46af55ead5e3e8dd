import ScrapeFleet.Net.SocketAddress
import ScrapeFleet.Policy
import ScrapeFleet.Relabel
import ScrapeFleet.Text.Quoted
import ScrapeFleet.Text.Utf8

/-!
What a configuration says, and when it is valid.

Lengths of time are kept as they are written; a valid configuration has a meaning for
each of them.
-/

namespace ScrapeFleet

namespace Config

structure Coordinator where
  maxSeriesPerShard : Int := 1000000
  maxShardCount : Int := 16
  maxIdle : String := "0s"
  reconcileInterval : String := "15s"
  deriving DecidableEq, Repr

structure Explore where
  concurrency : Nat := 16
  queueSize : Nat := 1024
  retryInterval : String := "5s"
  scrapeTimeout : String := "10s"
  deriving DecidableEq, Repr

structure Api where
  listen : SocketAddress := .anyInterface 9090
  deriving DecidableEq, Repr

structure Shard where
  id : String
  replicas : List String
  deriving DecidableEq, Repr

structure ListedTarget where
  url : String
  labels : Labels := ∅
  deriving DecidableEq, Repr

structure Job where
  name : String
  /-- The timeout of exploring its targets, in place of the explorer's. -/
  scrapeTimeout : Option String := none
  targets : List ListedTarget := []
  relabel : List Relabel.Rule := []
  metricRelabel : List Relabel.Rule := []
  deriving DecidableEq, Repr

end Config

structure Config where
  coordinator : Config.Coordinator := {}
  explore : Config.Explore := {}
  api : Config.Api := {}
  shards : List Config.Shard := []
  jobs : List Config.Job := []
  deriving DecidableEq, Repr

namespace Config

/-! ## Faults -/

inductive Fault where
  | notUtf8 (fault : Utf8.Fault)
  | maxSeriesNotPositive
  | maxShardsBelowOne
  | badDuration (field value : String)
  | zeroInterval
  | exploreNotPositive
  | duplicateShard (id : String)
  | noReplicas (id : String)
  | duplicateJob (name : String)
  | badPattern (regex : String)
  deriving DecidableEq, Repr

def Fault.message : Fault → String
  | .notUtf8 f => "config is not utf-8: " ++ f.message
  | .maxSeriesNotPositive => "coordinator.max_series_per_shard must be positive"
  | .maxShardsBelowOne => "coordinator.max_shard_count must be at least 1"
  | .badDuration field value => field ++ ": invalid duration " ++ Quoted.quote value
  | .zeroInterval => "coordinator.reconcile_interval must be non-zero"
  | .exploreNotPositive => "explore.concurrency and explore.queue_size must be positive"
  | .duplicateShard id => "duplicate shard id " ++ Quoted.quote id
  | .noReplicas id => "shard " ++ Quoted.quote id ++ " has no replicas"
  | .duplicateJob name => "duplicate job " ++ Quoted.quote name
  | .badPattern regex => "relabel regex " ++ Quoted.quote regex

/-! ## Derived values -/

def duration (field value : String) : Except Fault Duration :=
  match Duration.parse? value with
  | some d => .ok d
  | none => .error (.badDuration field value)

def Coordinator.policy (c : Coordinator) : Except Fault Policy :=
  if c.maxSeriesPerShard ≤ 0 then .error .maxSeriesNotPositive
  else if c.maxShardCount < 1 then .error .maxShardsBelowOne
  else do
    let maxIdle ← duration "coordinator.max_idle" c.maxIdle
    let interval ← duration "coordinator.reconcile_interval" c.reconcileInterval
    if interval.isZero then .error .zeroInterval
    else .ok { maxSeries := c.maxSeriesPerShard, maxShards := c.maxShardCount, maxIdle, interval }

def Explore.retry (e : Explore) : Except Fault Duration :=
  duration "explore.retry_interval" e.retryInterval

def Explore.timeout (e : Explore) : Except Fault Duration :=
  duration "explore.scrape_timeout" e.scrapeTimeout

def job? (c : Config) (name : String) : Option Job := c.jobs.find? (·.name = name)

/-- The timeout for exploring targets of a job: its own, else the explorer's, else ten
seconds. -/
def jobTimeout (c : Config) (name : String) : Duration :=
  let own := ((c.job? name).bind (·.scrapeTimeout)).bind Duration.parse?
  (own.or (Duration.parse? c.explore.scrapeTimeout)).getD (.ofSecs 10)

/-! ## Validity -/

def compileRules (rules : List Relabel.Rule) : Except Fault (List Relabel.Filter) :=
  match Relabel.compileAll rules with
  | .ok fs => .ok fs
  | .error regex => .error (.badPattern regex)

def checkShards : List String → List Shard → Except Fault Unit
  | _, [] => .ok ()
  | seen, s :: rest =>
    if seen.contains s.id then .error (.duplicateShard s.id)
    else if s.replicas.isEmpty then .error (.noReplicas s.id)
    else checkShards (s.id :: seen) rest

def Job.check (j : Job) : Except Fault Unit := do
  match j.scrapeTimeout with
  | some t => discard (duration ("jobs." ++ j.name ++ ".scrape_timeout") t)
  | none => pure ()
  discard (compileRules j.relabel)
  discard (compileRules j.metricRelabel)

def checkJobs : List String → List Job → Except Fault Unit
  | _, [] => .ok ()
  | seen, j :: rest =>
    if seen.contains j.name then .error (.duplicateJob j.name)
    else do
      j.check
      checkJobs (j.name :: seen) rest

/-- Checks everything that could fail later; the first fault is reported. -/
def validate (c : Config) : Except Fault Unit := do
  discard c.coordinator.policy
  if c.explore.concurrency = 0 || c.explore.queueSize = 0 then .error .exploreNotPositive
  else do
    discard c.explore.retry
    discard c.explore.timeout
    checkShards [] c.shards
    checkJobs [] c.jobs

end Config

end ScrapeFleet
