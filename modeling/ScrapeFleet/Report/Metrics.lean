import ScrapeFleet.Report.Snapshot
import ScrapeFleet.Explore.Explorer

/-!
The metrics that a coordinator exposes of itself.

A metric is a help line, a type line and a line for each sample.  Values of labels are
written as they are.
-/

namespace ScrapeFleet

inductive MetricKind where
  | gauge
  | counter
  deriving DecidableEq, Repr

def MetricKind.name : MetricKind → String
  | .gauge => "gauge"
  | .counter => "counter"

structure MetricSample where
  label : Option (String × String) := none
  value : Int
  deriving DecidableEq, Repr

structure Metric where
  name : String
  help : String
  kind : MetricKind
  samples : List MetricSample
  deriving DecidableEq, Repr

namespace Metric

/-! ## Text -/

def labelText : Option (String × String) → String
  | none => ""
  | some (name, value) => "\x7b" ++ name ++ "=\"" ++ value ++ "\"\x7d"

def sampleLine (name : String) (s : MetricSample) : String :=
  name ++ labelText s.label ++ " " ++ Int.repr s.value

def lines (m : Metric) : List String :=
  ("# HELP " ++ m.name ++ " " ++ m.help) :: ("# TYPE " ++ m.name ++ " " ++ m.kind.name) ::
    m.samples.map (sampleLine m.name)

def render (ms : List Metric) : String := String.join ((ms.flatMap lines).map (· ++ "\n"))

/-! ## Metrics of a coordinator -/

def gauge (name help : String) (value : Int) : Metric := ⟨name, help, .gauge, [⟨none, value⟩]⟩

def jobCounter (name help : String) (stats : SortedMap String JobStats) (f : JobStats → Nat) :
    Metric :=
  ⟨name, help, .counter, stats.entries.map (fun e => ⟨some ("job", e.1), f e.2⟩)⟩

def ofSnapshot (s : Snapshot) (stats : SortedMap String JobStats) : List Metric := [
  gauge "scrapegrid_shards" "Shards in the pool during the last cycle." s.shards.length,
  gauge "scrapegrid_shards_changeable"
    "Shards that accepted placement decisions in the last cycle." (s.shards.countP (·.changeable)),
  gauge "scrapegrid_desired_shards" "Pool size requested from the shard manager." s.desiredShards,
  gauge "scrapegrid_need_space_series" "Series demand no shard could absorb." s.needSpace,
  gauge "scrapegrid_active_targets" "Targets currently discovered." s.targets.active.count,
  ⟨"scrapegrid_cycles_total", "Completed reconcile cycles.", .counter, [⟨none, s.cycles⟩]⟩,
  ⟨"scrapegrid_shard_head_series", "Head series reported by each shard.", .gauge,
    s.shards.map (fun x => ⟨some ("shard", x.id), x.headSeries⟩)⟩,
  jobCounter "scrapegrid_explored_total" "Successful explore scrapes." stats (·.explored),
  jobCounter "scrapegrid_explore_failed_total" "Failed explore scrapes." stats (·.failed)]

end Metric

end ScrapeFleet
