import ScrapeFleet.Plan.Placement

/-!
One status for every active target, from what the shards report.
-/

namespace ScrapeFleet.GlobalStatus

/-- The better of the best status so far and another one; a status of unknown health does
not count, and of equals the first one stays. -/
def better (best : Option Status) (st : Status) : Option Status :=
  if st.health = .unknown then best
  else
    match best with
    | none => some st
    | some b => if st.outranks b then some st else some b

def holders (pool : Pool) (h : Fingerprint) : List (String × Status) :=
  (pool.filter (·.changeable)).filterMap (fun s => (s.scraping.get? h).map (s.id, ·))

/-- The best status that a shard reports, else the estimate, else a blank status; with the
shards that report the target. -/
def merged (pool : Pool) (estimate : Option Status) (h : Fingerprint) : Status :=
  let reports := holders pool h
  let st := ((reports.map (·.2)).foldl better none).getD (estimate.getD (.fresh 0))
  { st with shards := .ofList (reports.map (·.1)) }

/-- The statuses of all active targets; of a target in several jobs the last one counts. -/
def merge {σ : Type} (lookup : Lookup σ) (explored : σ) (active : TargetsByJob) (pool : Pool) :
    StatusMap :=
  active.listed.foldl
    (fun m (job, t) => m.insert t.hash (merged pool (lookup.estimate job t.hash explored) t.hash))
    ∅

end ScrapeFleet.GlobalStatus
