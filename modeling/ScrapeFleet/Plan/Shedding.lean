import ScrapeFleet.Plan.Pool
import ScrapeFleet.Plan.Tier

/-!
Shedding load from shards beyond their capacity.
-/

namespace ScrapeFleet.Shedding

structure Outcome where
  pool : Pool
  transfers : Nat
  needSpace : Int
  deriving Repr

def destination? (pool : Pool) (i : Nat) (series max : Int) : Option Nat :=
  (List.range pool.length).find? (fun j =>
    j ≠ i && (pool[j]?.any (·.accepts series max)))

/-- Moves candidates of shard `i` while its movable series are more than `expected`, and
stops at one that is too great for any shard.  Returns the series that stay. -/
def shed (max expected : Int) (i : Nat) :
    List (Fingerprint × Int) → Int → Pool → Pool × Int × Nat
  | [], total, pool => (pool, total, 0)
  | (h, series) :: rest, total, pool =>
    if total ≤ expected || max < series then (pool, total, 0)
    else
      match (destination? pool i series max).bind (pool.transfer i · h) with
      | none => shed max expected i rest total pool
      | some moved =>
        let (pool, total, transfers) := shed max expected i rest (Word.sub total series) moved
        (pool, total, transfers + 1)

def candidates (s : ShardState) : List (Fingerprint × Int) :=
  (s.scraping.entries.filter (·.2.isMovable)).map (fun e => (e.1, e.2.series))

def shedShard (max : Int) (acc : Outcome) (i : Nat) : Outcome :=
  match acc.pool[i]? with
  | none => acc
  | some s =>
    match if s.changeable then Tier.of? s.head max else none with
    | none => acc
    | some tier =>
      let expected := tier.expected max
      let (pool, total, transfers) :=
        shed max expected i (candidates s) s.movableSeries acc.pool
      { pool
        transfers := acc.transfers + transfers
        needSpace :=
          if expected < total then Word.add acc.needSpace (Word.sub total expected)
          else acc.needSpace }

def run (max : Int) (pool : Pool) : Outcome :=
  (List.range pool.length).foldl (shedShard max) ⟨pool, 0, 0⟩

end ScrapeFleet.Shedding
