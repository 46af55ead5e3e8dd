import ScrapeFleet.Api
import ScrapeFleet.CommandLine.Arguments
import ScrapeFleet.Replica.Remote

/-!
What the subcommands come to.

`check` reports on a configuration, and `run` starts a coordinator from it.  A check does
not look at the URLs of targets, and does not ask for shards.
-/

namespace ScrapeFleet.CommandLine

/-! ## Checking -/

def targetCount (c : Config) : Nat := (c.jobs.map (·.targets.length)).foldr (· + ·) 0

def report (path : String) (c : Config.Loaded) (p : Policy) : List String := [
  "config ok: " ++ path,
  "  hash:                 " ++ c.hash,
  "  max_series_per_shard: " ++ Int.repr p.maxSeries,
  "  max_shard_count:      " ++ Int.repr p.maxShards,
  "  max_idle:             " ++ p.maxIdle.text,
  "  reconcile_interval:   " ++ p.interval.text,
  "  shards:               " ++ Nat.repr c.config.shards.length,
  "  jobs:                 " ++ Nat.repr c.config.jobs.length ++ " (" ++
    Nat.repr (targetCount c.config) ++ " static targets)"]

def check (path : String) (file : Option ByteArray) : Except Coordinator.Fault (List String) := do
  let c ← (Config.loadFile file).mapError .config
  let p ← c.config.coordinator.policy.mapError .ofConfig
  pure (report path c p)

/-! ## Running -/

def coordinator {ρ : Type} (connect : String → ρ) (draws : Draws) (file : Option ByteArray) :
    Except Coordinator.Fault (Coordinator ρ) := do
  let c ← (Config.loadFile file).mapError .config
  Coordinator.start c (Coordinator.shardsOf connect c.config) draws

/-! ## Ends -/

inductive Exit where
  | success
  | failure
  | misuse
  deriving DecidableEq, Repr

def Exit.code : Exit → Nat
  | .success => 0
  | .failure => 1
  | .misuse => 2

def Refusal.exit : Refusal → Exit
  | .helpWanted => .success
  | .misuse => .misuse

def complaint (f : Coordinator.Fault) : String := "Error: " ++ f.message

def usage : List String := [
  "Usage: scrapegridd [--log-format text|json] run|check --config PATH",
  "",
  "  run    Run the coordinator and its API.",
  "  check  Validate a config file and print the derived options."]

end ScrapeFleet.CommandLine
