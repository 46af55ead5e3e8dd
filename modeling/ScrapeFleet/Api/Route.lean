/-!
The resources that are served, and the methods that they answer.
-/

namespace ScrapeFleet

inductive Route where
  | targets
  | shards
  | config
  | reload
  | metrics
  | health
  deriving DecidableEq, Repr

namespace Route

def all : List Route := [.targets, .shards, .config, .reload, .metrics, .health]

def path : Route → String
  | .targets => "/api/v1/targets"
  | .shards => "/api/v1/shards"
  | .config => "/api/v1/status/config"
  | .reload => "/-/reload"
  | .metrics => "/metrics"
  | .health => "/healthz"

def ofPath? (path : List Char) : Option Route := all.find? (·.path.toList = path)

def changes : Route → Bool
  | .reload => true
  | _ => false

/-- A resource that changes something is posted to; the others are read, by their content or
by their head only. -/
def allows (r : Route) (method : String) : Bool :=
  if r.changes then method = "POST" else method = "GET" || method = "HEAD"

end Route

end ScrapeFleet
