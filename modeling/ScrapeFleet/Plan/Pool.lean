import ScrapeFleet.Data.Word
import ScrapeFleet.Status

/-!
The pool of shards as one planning cycle sees it.

Planning changes a copy of what the shards reported.  A target that moves to another
shard stays on its old one, marked as in transfer, until the new copy has settled.
Loads, series and sums of them are signed 64-bit numbers that wrap around.
-/

namespace ScrapeFleet

structure ShardState where
  id : String
  /-- Reachable, ready, and running the expected configuration. -/
  changeable : Bool
  runtime : Runtime := {}
  scraping : StatusMap := ∅
  assignment : TargetsByJob := ∅
  deriving DecidableEq, Repr, Inhabited

abbrev Pool := List ShardState

namespace ShardState

abbrev head (s : ShardState) : Int := s.runtime.headSeries

def movableSeries (s : ShardState) : Int :=
  Word.sum ((s.scraping.values.filter (·.isMovable)).map (·.series))

def hasRoom (s : ShardState) (series max : Int) : Bool := Word.add s.head series < max

def accepts (s : ShardState) (series max : Int) : Bool := s.changeable && s.hasRoom series max

/-- Whether the shard has no targets and has had none for more than `maxIdle` seconds. -/
def idleLongerThan (s : ShardState) (maxIdle now : Nat) : Bool :=
  s.scraping.isEmpty &&
    match s.runtime.idleStartAt with
    | none => false
    | some since => maxIdle < now - since

/-- Marks the target as in transfer and restarts its count of scrapes. -/
def release (s : ShardState) (h : Fingerprint) : ShardState :=
  { s with
    scraping := s.scraping.modify h (fun st => { st with state := .inTransfer, scrapes := 0 }) }

def receive (s : ShardState) (h : Fingerprint) (series : Int) : ShardState :=
  { s with
    scraping := s.scraping.insert h (.fresh series)
    runtime := { s.runtime with headSeries := Word.add s.head series } }

end ShardState

structure ShardSummary where
  id : String
  changeable : Bool
  headSeries : Int
  targets : Nat
  deriving DecidableEq, Repr

def ShardState.summary (s : ShardState) : ShardSummary :=
  ⟨s.id, s.changeable, s.head, s.scraping.size⟩

namespace Pool

/-- Moves a target from one shard to another, unless the first one does not hold it or
already lets go of it. -/
def transfer (pool : Pool) (source dest : Nat) (h : Fingerprint) : Option Pool :=
  match pool[source]?.bind (·.scraping.get? h) with
  | none => none
  | some st =>
    if st.state = .normal then
      some ((pool.modify source (·.release h)).modify dest (·.receive h st.series))
    else none

def holds (pool : Pool) (h : Fingerprint) : Bool := pool.any (·.scraping.contains h)

def changeableCount (pool : Pool) : Nat := pool.countP (·.changeable)

end Pool

end ScrapeFleet
