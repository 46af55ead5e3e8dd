import ScrapeFleet.Duration

/-!
The settings that planning obeys.
-/

namespace ScrapeFleet

structure Policy where
  maxSeries : Int
  maxShards : Int
  /-- How long a shard may be without targets before it is given up; zero keeps it forever. -/
  maxIdle : Duration
  interval : Duration
  deriving DecidableEq, Repr

end ScrapeFleet
