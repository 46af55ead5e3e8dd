import ScrapeFleet.Plan.Pool

/-!
The targets that each shard is told to scrape.
-/

namespace ScrapeFleet.Assignment

/-- Active targets by fingerprint; of several with one fingerprint the last one counts. -/
def index (active : TargetsByJob) : SortedMap Fingerprint Target :=
  .ofList (active.listed.map (fun (_, t) => (t.hash, t)))

/-- The active targets that a shard scrapes, each under its own job and with the state and
series that it has there. -/
def ofScraping (byHash : SortedMap Fingerprint Target) (scraping : StatusMap) : TargetsByJob :=
  scraping.entries.foldl
    (fun out (h, st) =>
      match byHash.get? h with
      | none => out
      | some t => out.add t.job { t with state := st.state, series := st.series })
    ∅

def build (active : TargetsByJob) (pool : Pool) : Pool :=
  let byHash := index active
  pool.map (fun s =>
    if s.changeable then { s with assignment := ofScraping byHash s.scraping } else s)

end ScrapeFleet.Assignment
