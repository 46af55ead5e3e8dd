import ScrapeFleet.Plan.Pool
import ScrapeFleet.Plan.Draws

/-!
Placing targets that no shard scrapes yet.

A target is placed on the strength of an estimate of its series: the status of the
last cycle if that was good, else what exploration has found.  Exploring may change
what is known, so the state of the explorer is passed through.
-/

namespace ScrapeFleet

/-- Where estimates come from; `σ` is the state of exploration. -/
structure Lookup (σ : Type) where
  /-- The estimate for a target that waits to be placed; asking may start sampling it. -/
  explore : String → Target → σ → Option Status × σ
  estimate : String → Fingerprint → σ → Option Status

inductive Placement where
  | firstFit
  | weighted
  deriving DecidableEq, Repr

namespace Placement

def weight (max : Int) (s : ShardState) : Nat := (Max.max (Word.sub max s.head) 1).toNat

def eligible (pool : Pool) (series max : Int) : List Nat :=
  (pool.zipIdx.filter (·.1.accepts series max)).map (·.2)

def pick (p : Placement) (pool : Pool) (series max : Int) (d : Draws) : Option Nat × Draws :=
  match p with
  | .firstFit => (pool.findIdx? (·.accepts series max), d)
  | .weighted =>
    let weights := (pool.filter (·.accepts series max)).map (weight max)
    let (k, d) := d.weighted weights
    (k.bind ((eligible pool series max)[·]?), d)

variable {σ : Type}

structure Outcome (σ : Type) where
  pool : Pool
  placed : Nat
  needSpace : Int
  draws : Draws
  explored : σ

/-- The good status of the last cycle, else what exploration knows. -/
def estimate (lookup : Lookup σ) (known : StatusMap) (job : String) (t : Target) (e : σ) :
    Option Status × σ :=
  match known.get? t.hash with
  | some st => if st.health = .good then (some st, e) else lookup.explore job t e
  | none => lookup.explore job t e

def place (p : Placement) (max : Int) (h : Fingerprint) (estimate : Option Status)
    (acc : Outcome σ) : Outcome σ :=
  match estimate with
  | none => acc
  | some st =>
    if st.health ≠ .good || max < st.series then acc
    else
      match p.pick acc.pool st.series max acc.draws with
      | (none, draws) => { acc with needSpace := Word.add acc.needSpace st.series, draws }
      | (some j, draws) =>
        { acc with
          pool := acc.pool.modify j (·.receive h st.series)
          placed := acc.placed + 1
          draws }

def placeTarget (p : Placement) (lookup : Lookup σ) (known : StatusMap) (max : Int)
    (acc : Outcome σ) (item : String × Target) : Outcome σ :=
  let (job, t) := item
  if acc.pool.holds t.hash then acc
  else
    let (st, explored) := estimate lookup known job t acc.explored
    place p max t.hash st { acc with explored }

def run (p : Placement) (lookup : Lookup σ) (known : StatusMap) (max : Int)
    (active : TargetsByJob) (pool : Pool) (draws : Draws) (explored : σ) : Outcome σ :=
  active.listed.foldl (placeTarget p lookup known max) ⟨pool, 0, 0, draws, explored⟩

end Placement

end ScrapeFleet
