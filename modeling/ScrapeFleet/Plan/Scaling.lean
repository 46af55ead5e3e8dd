import ScrapeFleet.Plan.Pool

/-!
The size of the pool.

The pool shrinks from its end, by shards that have drained and been idle; it grows by
the demand that no shard could take.
-/

namespace ScrapeFleet.Scaling

/-! ## Draining -/

/-- The destinations of a shard's normal targets among the shards before it, which are
given by whether they are changeable and by their loads; `none` if a target fits nowhere. -/
def drainMoves (max : Int) :
    List (Fingerprint × Status) → List (Bool × Int) → Option (List (Fingerprint × Nat))
  | [], _ => some []
  | (h, st) :: rest, earlier =>
    if st.state = .normal then do
      let j ← earlier.findIdx? (fun e => e.1 && Word.add e.2 st.series < max)
      let moves ← drainMoves max rest (earlier.modify j (fun e => (e.1, Word.add e.2 st.series)))
      pure ((h, j) :: moves)
    else drainMoves max rest earlier

def planDrain (max : Int) (pool : Pool) (i : Nat) (s : ShardState) :
    Option (List (Fingerprint × Nat)) :=
  drainMoves max s.scraping.entries ((pool.take i).map (fun e => (e.changeable, e.head)))

def applyMoves (i : Nat) : List (Fingerprint × Nat) → Pool → Pool × Nat
  | [], pool => (pool, 0)
  | (h, j) :: rest, pool =>
    match pool.transfer i j h with
    | none => applyMoves i rest pool
    | some moved =>
      let (pool, n) := applyMoves i rest moved
      (pool, n + 1)

/-! ## Shrinking -/

structure Shrunk where
  pool : Pool
  desired : Nat
  transfers : Nat
  deriving Repr

def isSettling (s : ShardState) : Bool :=
  s.scraping.values.any (fun st => st.state = .normal && !st.isStable)

/-- Walks over the first `n` shards from the last one on.  Idle shards are counted out and
others drained; the walk ends at one that is not changeable, is settling, or cannot be
drained. -/
def walk (max : Int) (maxIdle now : Nat) : Nat → Shrunk → Shrunk
  | 0, acc => acc
  | i + 1, acc =>
    match acc.pool[i]? with
    | none => acc
    | some s =>
      if !s.changeable then acc
      else if s.idleLongerThan maxIdle now then
        walk max maxIdle now i { acc with desired := acc.desired - 1 }
      else if isSettling s then acc
      else
        match planDrain max acc.pool i s with
        | none => acc
        | some moves =>
          let (pool, n) := applyMoves i moves acc.pool
          walk max maxIdle now i { acc with pool, transfers := acc.transfers + n }

def shrink (max : Int) (maxIdle now : Nat) (pool : Pool) : Shrunk :=
  walk max maxIdle now pool.length ⟨pool, pool.length, 0⟩

/-! ## Growing -/

/-- The changeable shards and as many more as the demand needs; not less than the pool has,
and not more than `maxShards`. -/
def grow (changeable total : Nat) (needSpace max maxShards : Int) : Int :=
  let extra := (Word.sub (Word.add (Max.max needSpace 0) max) 1).tdiv max
  min (Max.max (Word.add changeable extra) total) maxShards

end ScrapeFleet.Scaling
