import ScrapeFleet.Replica.Shard

/-!
All configured shards, the first ones of which make up the pool.
-/

namespace ScrapeFleet

structure Fleet (ρ : Type) where
  shards : List (Shard ρ)
  active : Nat
  deriving Repr

namespace Fleet

inductive Fault where
  | noShards
  | emptyPool
  deriving DecidableEq, Repr

def Fault.message : Fault → String
  | .noShards => "shard manager error: no shards configured"
  | .emptyPool => "shard manager error: shard pool is empty"

variable {ρ : Type}

def ofShards (shards : List (Shard ρ)) : Except Fault (Fleet ρ) :=
  match shards with
  | [] => .error .noShards
  | first :: rest => .ok ⟨first :: rest.map (·.setReady false), 1⟩

def pool (f : Fleet ρ) : List (Shard ρ) := f.shards.take f.active

/-- The pool size for a wish: at least one, and not more than there are shards. -/
def size (f : Fleet ρ) (desired : Int) : Nat := max 1 (min desired.toNat f.shards.length)

def rescale (f : Fleet ρ) (desired : Int) : Fleet ρ :=
  let next := f.size desired
  if next = f.active then f
  else { shards := f.shards.mapIdx (fun i s => s.setReady (i < next)), active := next }

def update (f : Fleet ρ) (pool : List (Shard ρ)) : Fleet ρ :=
  { f with shards := pool ++ f.shards.drop f.active }

end Fleet

end ScrapeFleet
