import ScrapeFleet.Plan.Pool

/-!
Dropping assignments that no shard should scrape any longer.

An entry goes when its target is no longer discovered, or when it has settled and a
settled copy on another changeable shard wins: a normal copy wins over one in
transfer, and of two normal copies the one on the less loaded shard wins, on equal
load the one on the earlier shard.
-/

namespace ScrapeFleet.Cleanup

/-- Whether the settled copy `theirs` on shard `j` wins over the settled copy `ours` on shard
`i`, whose loads are `theirHead` and `ourHead`. -/
def beats (i j : Nat) (ourHead theirHead : Int) (ours theirs : Status) : Bool :=
  match ours.state, theirs.state with
  | .inTransfer, .normal => true
  | .normal, .normal => theirHead < ourHead || (theirHead = ourHead && j < i)
  | _, _ => false

def losesDuplicate (pool : Pool) (i : Nat) (head : Int) (h : Fingerprint) (st : Status) : Bool :=
  st.isStable && pool.zipIdx.any (fun (other, j) =>
    j ≠ i && other.changeable &&
      match other.scraping.get? h with
      | none => false
      | some theirs => theirs.isStable && beats i j head other.head st theirs)

def stays (active : List Fingerprint) (pool : Pool) (i : Nat) (head : Int)
    (h : Fingerprint) (st : Status) : Bool :=
  active.contains h && !losesDuplicate pool i head h st

def cleanShard (active : List Fingerprint) (acc : Pool × Nat) (i : Nat) : Pool × Nat :=
  let (pool, removed) := acc
  match pool[i]? with
  | none => acc
  | some s =>
    if s.changeable then
      let kept := s.scraping.filter (stays active pool i s.head)
      (pool.set i { s with scraping := kept }, removed + (s.scraping.size - kept.size))
    else acc

def run (active : List Fingerprint) (pool : Pool) : Pool × Nat :=
  (List.range pool.length).foldl (cleanShard active) (pool, 0)

end ScrapeFleet.Cleanup
