import ScrapeFleet.Config
import ScrapeFleet.Wire

/-!
Configurations and rules as trees.  Fields that are missing take their defaults, and
unknown ones are ignored.
-/

namespace ScrapeFleet.Config

open ScrapeFleet.Tree Wire

/-! ## Reading -/

def readAction : Reader Relabel.Action := readEnum [("keep", .keep), ("drop", .drop)]

def readRule : Reader Relabel.Rule := fun v t => do
  let fs ← fields ["source_labels", "separator", "regex", "action"] v t
  pure {
    sourceLabels := ← fs.required "source_labels" (readList readText)
    separator := ← fs.optional "separator" readText ";"
    regex := ← fs.required "regex" readText
    action := ← fs.optional "action" readAction .keep }

def readCoordinator : Reader Coordinator := fun v t => do
  let d : Coordinator := {}
  let fs ← fields ["max_series_per_shard", "max_shard_count", "max_idle", "reconcile_interval"] v t
  pure {
    maxSeriesPerShard := ← fs.optional "max_series_per_shard" readSigned d.maxSeriesPerShard
    maxShardCount := ← fs.optional "max_shard_count" (readInt Word.minSigned32 Word.maxSigned32)
      d.maxShardCount
    maxIdle := ← fs.optional "max_idle" readText d.maxIdle
    reconcileInterval := ← fs.optional "reconcile_interval" readText d.reconcileInterval }

def readExplore : Reader Explore := fun v t => do
  let d : Explore := {}
  let fs ← fields ["concurrency", "queue_size", "retry_interval", "scrape_timeout"] v t
  pure {
    concurrency := ← fs.optional "concurrency" readUnsigned d.concurrency
    queueSize := ← fs.optional "queue_size" readUnsigned d.queueSize
    retryInterval := ← fs.optional "retry_interval" readText d.retryInterval
    scrapeTimeout := ← fs.optional "scrape_timeout" readText d.scrapeTimeout }

def readAddress : Reader SocketAddress := fun v t => (readText v t).bind SocketAddress.parse?

def readApi : Reader Api := fun v t => do
  let d : Api := {}
  let fs ← fields ["listen"] v t
  pure { listen := ← fs.optional "listen" readAddress d.listen }

def readShard : Reader Shard := fun v t => do
  let fs ← fields ["id", "replicas"] v t
  pure {
    id := ← fs.required "id" readText
    replicas := ← fs.required "replicas" (readList readText) }

def readListedTarget : Reader ListedTarget := fun v t => do
  let fs ← fields ["url", "labels"] v t
  pure {
    url := ← fs.required "url" readText
    labels := ← fs.optional "labels" readLabels ∅ }

def readJob : Reader Job := fun v t => do
  let fs ← fields ["name", "scrape_timeout", "targets", "relabel", "metric_relabel"] v t
  pure {
    name := ← fs.required "name" readText
    scrapeTimeout := ← fs.optional "scrape_timeout" (readOption readText) none
    targets := ← fs.optional "targets" (readList readListedTarget) []
    relabel := ← fs.optional "relabel" (readList readRule) []
    metricRelabel := ← fs.optional "metric_relabel" (readList readRule) [] }

def read : Reader Config := fun v t => do
  let fs ← fields ["coordinator", "explore", "api", "shards", "jobs"] v t
  pure {
    coordinator := ← fs.optional "coordinator" readCoordinator {}
    explore := ← fs.optional "explore" readExplore {}
    api := ← fs.optional "api" readApi {}
    shards := ← fs.optional "shards" (readList readShard) []
    jobs := ← fs.optional "jobs" (readList readJob) [] }

/-! ## Writing -/

def writeTexts (l : List String) : Tree := .list (l.map .text)

def actionName : Relabel.Action → String
  | .keep => "keep"
  | .drop => "drop"

def writeRule (r : Relabel.Rule) : Tree := .table [
  ("source_labels", writeTexts r.sourceLabels),
  ("separator", .text r.separator),
  ("regex", .text r.regex),
  ("action", .text (actionName r.action))]

def writeCoordinator (c : Coordinator) : Tree := .table [
  ("max_series_per_shard", .int c.maxSeriesPerShard),
  ("max_shard_count", .int c.maxShardCount),
  ("max_idle", .text c.maxIdle),
  ("reconcile_interval", .text c.reconcileInterval)]

def writeExplore (e : Explore) : Tree := .table [
  ("concurrency", writeNat e.concurrency),
  ("queue_size", writeNat e.queueSize),
  ("retry_interval", .text e.retryInterval),
  ("scrape_timeout", .text e.scrapeTimeout)]

def writeShard (s : Shard) : Tree := .table [
  ("id", .text s.id),
  ("replicas", writeTexts s.replicas)]

def writeJob (j : Job) : Tree := .table [
  ("name", .text j.name),
  ("scrape_timeout", writeOption .text j.scrapeTimeout),
  ("targets", .list (j.targets.map (fun t =>
    .table [("url", .text t.url), ("labels", writeLabels t.labels)]))),
  ("relabel", .list (j.relabel.map writeRule)),
  ("metric_relabel", .list (j.metricRelabel.map writeRule))]

def write (c : Config) : Tree := .table [
  ("coordinator", writeCoordinator c.coordinator),
  ("explore", writeExplore c.explore),
  ("api", .table [("listen", .text c.api.listen.text)]),
  ("shards", .list (c.shards.map writeShard)),
  ("jobs", .list (c.jobs.map writeJob))]

end ScrapeFleet.Config
