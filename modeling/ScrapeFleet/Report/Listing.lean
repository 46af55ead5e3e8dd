import ScrapeFleet.Report.Snapshot
import ScrapeFleet.Wire

/-!
The listing of all targets with what is known of them.
-/

namespace ScrapeFleet

inductive Selection where
  | active
  | dropped
  | any
  deriving DecidableEq, Repr, Inhabited

structure ListedActive where
  job : String
  target : Target
  status : Status
  deriving DecidableEq, Repr

structure Listing where
  active : List ListedActive := []
  dropped : List Labels := []
  deriving DecidableEq, Repr

namespace Selection

def names : List (String × Selection) := [("active", .active), ("dropped", .dropped), ("any", .any)]

def ofName? (s : String) : Option Selection := names.lookup s

def read : Tree.Reader Selection := Tree.readEnum names

end Selection

namespace Listing

/-- The active targets with their statuses; one without a status has a blank one. -/
def listActive (s : Snapshot) : List ListedActive :=
  s.targets.active.listed.map (fun (job, t) => ⟨job, t, s.statuses.getD t.hash {}⟩)

def listDropped (s : Snapshot) : List Labels :=
  s.targets.dropped.values.flatten.map (·.discovered)

def ofSnapshot (s : Snapshot) (which : Selection) : Listing where
  active := if which = .dropped then [] else listActive s
  dropped := if which = .active then [] else listDropped s

/-! ## Writing -/

def seconds (ms : Nat) : Tree := .real (Binary64.quotient ms 1000)

def writeActive (x : ListedActive) : Tree := .table [
  ("discoveredLabels", Wire.writeLabels x.target.discovered),
  ("labels", Wire.writeLabels x.target.labels),
  ("scrapePool", .text x.job),
  ("scrapeUrl", .text x.target.url),
  ("health", .text x.status.health.label),
  ("lastError", .text (x.status.lastError.getD "")),
  ("lastScrape", Wire.writeOption Wire.writeNat x.status.lastScrape),
  ("lastScrapeDuration", seconds x.status.lastDurationMs),
  ("series", .int x.status.series),
  ("shards", .list (x.status.shards.keys.map .text))]

def write (l : Listing) : Tree := .table [
  ("status", .text "success"),
  ("data", .table [
    ("activeTargets", .list (l.active.map writeActive)),
    ("droppedTargets", .list (l.dropped.map (fun ls =>
      .table [("discoveredLabels", Wire.writeLabels ls)])))])]

end Listing

end ScrapeFleet
