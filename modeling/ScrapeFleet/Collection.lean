import ScrapeFleet.Plan.Pool
import ScrapeFleet.Replica.Shard
import ScrapeFleet.Config.Loaded

/-!
Reading the state of every shard at the beginning of a cycle.

Only a shard that is ready, answers, and runs the expected configuration may be changed
in the cycle.  A shard with another configuration is sent the expected one, once.
-/

namespace ScrapeFleet.Collection

variable {ρ : Type} [Endpoint ρ]

def unchangeable (s : Shard ρ) (runtime : Runtime) (scraping : StatusMap) : ShardState :=
  { id := s.id, changeable := false, runtime, scraping }

def changeable (s : Shard ρ) (runtime : Runtime) (scraping : StatusMap) : ShardState :=
  { id := s.id, changeable := true, runtime, scraping }

def configure (expected : Config.Loaded) (runtime : Runtime) (scraping : StatusMap)
    (s : Shard ρ) : ShardState × Shard ρ :=
  match s.pushConfig expected.raw with
  | (.error _, s) => (unchangeable s runtime scraping, s)
  | (.ok (), s) =>
    match s.runtime with
    | (.error _, s) => (unchangeable s {} s.scraping, s)
    | (.ok runtime, s) =>
      if runtime.configHash = expected.hash then (changeable s runtime scraping, s)
      else (unchangeable s runtime scraping, s)

def collectShard (expected : Config.Loaded) (s : Shard ρ) : ShardState × Shard ρ :=
  if !s.ready then (unchangeable s {} s.scraping, s)
  else
    match s.scrapeStatus with
    | (.error _, s) => (unchangeable s {} s.scraping, s)
    | (.ok scraping, s) =>
      match s.runtime with
      | (.error _, s) => (unchangeable s {} s.scraping, s)
      | (.ok runtime, s) =>
        if runtime.configHash = expected.hash then (changeable s runtime scraping, s)
        else configure expected runtime scraping s

/-- Reads all shards; one that fails does not affect the others. -/
def collect (expected : Config.Loaded) (shards : List (Shard ρ)) : Pool × List (Shard ρ) :=
  let read := shards.map (collectShard expected)
  (read.map (·.1), read.map (·.2))

end ScrapeFleet.Collection
