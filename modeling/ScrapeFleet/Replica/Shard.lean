import ScrapeFleet.Replica.Group
import ScrapeFleet.Text.Quoted

/-!
A shard as the coordinator holds it: its replicas, whether it takes part in cycles, and
what it was last seen to scrape.
-/

namespace ScrapeFleet

structure Shard (ρ : Type) where
  id : String
  group : ReplicaGroup ρ
  ready : Bool := true
  /-- The last report, until a request to all replicas fails. -/
  cached : Option StatusMap := none
  deriving Repr

namespace Shard

variable {ρ α : Type} [Endpoint ρ]

def ofEndpoints (id : String) (es : List ρ) : Shard ρ := { id, group := .ofEndpoints es }

def scraping (s : Shard ρ) : StatusMap := s.cached.getD ∅

/-- The shard after a request to its group; the report is forgotten if that failed. -/
def after (s : Shard ρ) (r : Except RequestError α × ReplicaGroup ρ) :
    Except RequestError α × Shard ρ :=
  match r with
  | (.ok a, g) => (.ok a, { s with group := g })
  | (.error e, g) => (.error e, { s with group := g, cached := none })

def runtime (s : Shard ρ) : Except RequestError Runtime × Shard ρ :=
  s.after (s.group.read Endpoint.runtime (fun a b => b.headSeries < a.headSeries))

/-- The first of the reports with the most targets. -/
def largest (reports : List StatusMap) : StatusMap :=
  reports.foldl (fun best m => if best.size < m.size then m else best) ∅

def scrapeStatus (s : Shard ρ) : Except RequestError StatusMap × Shard ρ :=
  match s.group.broadcast Endpoint.scrapeStatus with
  | (.error e, g) => (.error e, { s with group := g, cached := none })
  | (.ok found, g) =>
    let best := largest (found.map (·.2))
    (.ok best,
      { s with group := found.foldl (fun g (i, m) => g.observe i m) g, cached := some best })

def pushConfig (raw : ByteArray) (s : Shard ρ) : Except RequestError Unit × Shard ρ :=
  s.after (s.group.write (Endpoint.pushConfig raw))

def updateTargets (ts : TargetsByJob) (s : Shard ρ) : Except RequestError Unit × Shard ρ :=
  let (r, s) := s.after (s.group.pushTargets ts)
  (r.map (fun _ => ()), s)

def invalidate (s : Shard ρ) : Shard ρ := { s with group := s.group.invalidate, cached := none }

def setReady (s : Shard ρ) (ready : Bool) : Shard ρ := { s with ready }

def describe (s : Shard ρ) : String :=
  let replicas := ", ".intercalate (s.group.addresses.map Quoted.quote)
  "ShardHandle \x7b id: " ++ Quoted.quote s.id ++ ", replicas: [" ++ replicas ++ "], ready: " ++
    (if s.ready then "true" else "false") ++ " \x7d"

end Shard

end ScrapeFleet
