import ScrapeFleet.Proofs.Plan.Load
import ScrapeFleet.Proofs.Plan.Shrinking

/-!
# Shards that are vacated

When the walk from the end of the pool comes to a shard, it leaves the entries of
the shard alone, or it vacates the shard: every target that the shard owns has
settled there and goes to an earlier shard with room for it.  There is nothing in
between, as the moves are only made when all of them have been planned, and each
planned move succeeds.  A shard that has received something has not settled, so
the walk ends there at the latest, and what was received stays to the end.
-/

namespace ScrapeFleet

namespace Status

def vacated (st : Status) : Status := if st.isNormal then st.released else st

theorem isSettled_iff {st : Status} :
    st.isSettled = true ↔ st.isNormal = true ∧ st.isStable = true := by
  simp [isSettled]

end Status

namespace Pool

variable {max : Int} {pool pool' : Pool} {i j a b : Nat} {s t : ShardState} {h k : Fingerprint}
  {series series' : Int}

/-! ## What a shard owns -/

def ownedBy (pool : Pool) (i : Nat) : List (Fingerprint × Status) :=
  (pool[i]?.toList.flatMap (·.scraping.entries)).filter (·.2.isNormal)

theorem ownedBy_of_getElem? (hs : pool[i]? = some s) :
    pool.ownedBy i = s.scraping.entries.filter (·.2.isNormal) := by
  simp [ownedBy, hs]

theorem ownedBy_congr (heq : pool[i]? = pool'[i]?) : pool.ownedBy i = pool'.ownedBy i := by
  rw [ownedBy, heq, ownedBy]

theorem ownedBy_eq_nil (hs : pool[i]? = some s) (hnothing : Scaling.OwnsNothing s) :
    pool.ownedBy i = [] := by
  rw [ownedBy_of_getElem? hs, List.filter_eq_nil_iff]
  intro e he
  rw [hnothing.2 e.1 e.2 (SortedMap.get?_eq_some_iff.2 he)]
  exact Bool.false_ne_true

/-! ## Shards that host a target -/

def Hosts (max : Int) (pool : Pool) (j : Nat) (h : Fingerprint) (series : Int) : Prop :=
  ∃ t, pool[j]? = some t ∧ t.changeable = true ∧ t.head < max ∧
    t.scraping.get? h = some (.fresh series)

abbrev moved (pool : Pool) (a b : Nat) (k : Fingerprint) (series : Int) : Pool :=
  (pool.modify a (·.release k)).modify b (·.receive k series)

theorem hosts_moved (hne : a ≠ b) (ht : pool[b]? = some t)
    (haccepts : t.accepts series max = true) :
    (pool.moved a b k series).Hosts max b k series := by
  have hc := ShardState.changeable_of_accepts haccepts
  refine ⟨t.receive k series, by simp [hne, ht], hc, ?_, ?_⟩
  · exact ShardState.add_lt_of_accepts haccepts
  · rw [ShardState.get?_receive, if_pos rfl]

theorem Hosts.moved_of_ne (hosts : pool.Hosts max j h series) (hkey : h ≠ k) (hne : a ≠ b)
    (ht : pool[b]? = some t) (haccepts : t.accepts series' max = true) :
    (pool.moved a b k series').Hosts max j h series := by
  obtain ⟨u, hu, hc, hhead, hget⟩ := hosts
  by_cases hb : b = j
  · subst hb
    obtain rfl : t = u := Option.some.inj (ht.symm.trans hu)
    refine ⟨t.receive k series', by simp [hne, ht], hc, ?_, ?_⟩
    · exact ShardState.add_lt_of_accepts haccepts
    · rw [ShardState.get?_receive, if_neg hkey, hget]
  · by_cases ha : a = j
    · subst ha
      refine ⟨u.release k, by simp [hb, hu], hc, hhead, ?_⟩
      rw [ShardState.get?_release, if_neg hkey, hget]
    · exact ⟨u, by simp [ha, hb, hu], hc, hhead, hget⟩

/-- A fresh copy is not moved, so a move can only put another fresh copy in its place. -/
theorem Hosts.move (hosts : pool.Hosts max j h series)
    (move : Planning.Move max a b pool pool') : ∃ series', pool'.Hosts max j h series' := by
  obtain ⟨hne, hs, hc, hget, hsettled, ht, haccepts⟩ := move
  rename_i s t k st
  by_cases hkey : h = k
  · subst hkey
    by_cases hb : b = j
    · subst hb
      exact ⟨st.series, hosts_moved hne ht haccepts⟩
    · obtain ⟨u, hu, hchangeable, hhead, hfresh⟩ := hosts
      have ha : a ≠ j := by
        rintro rfl
        obtain rfl : s = u := Option.some.inj (hs.symm.trans hu)
        obtain rfl : st = .fresh series := Option.some.inj (hget.symm.trans hfresh)
        cases hsettled
      exact ⟨series, u, by simp [ha, hb, hu], hchangeable, hhead, hfresh⟩
  · exact ⟨series, hosts.moved_of_ne hkey hne ht haccepts⟩

theorem Hosts.moves (hosts : pool.Hosts max j h series)
    (moves : Planning.Moves max pool pool') : ∃ series', pool'.Hosts max j h series' := by
  induction moves with
  | refl => exact ⟨series, hosts⟩
  | tail _ step ih =>
      obtain ⟨a, b, move⟩ := step
      obtain ⟨series', hosts'⟩ := ih
      exact hosts'.move move

end Pool

namespace Scaling

open Planning

variable {max : Int} {maxIdle now : Nat} {pool pool' : Pool} {i : Nat} {s : ShardState}

/-! ## Vacating one shard -/

/-- Shard `i` lets go of all that it owns, and each of these targets goes to an earlier shard. -/
structure Vacates (max : Int) (i : Nat) (before after : Pool) : Prop where
  drain : Drain max i before after
  source : ∃ s, before[i]? = some s ∧ s.changeable = true ∧
    after[i]? = some { s with scraping := s.scraping.map Status.vacated }
  given : ∀ e ∈ before.ownedBy i, e.2.isStable = true ∧
    ∃ j < i, after.Hosts max j e.1 e.2.series

/-- What a drain makes of an entry: it stays as it is, or it is released when it has settled, and
its target is hosted elsewhere. -/
inductive Fate (hosted : Int → Prop) : Option Status → Option Status → Prop
  | kept (o : Option Status) : Fate hosted o o
  | released {st : Status} : st.isSettled = true → hosted st.series →
      Fate hosted (some st) (some st.released)

theorem Fate.mono {hosted hosted' : Int → Prop} {o o' : Option Status} (fate : Fate hosted o o')
    (himp : ∀ series, hosted series → hosted' series) : Fate hosted' o o' := by
  cases fate with
  | kept => exact .kept _
  | released hsettled hosts => exact .released hsettled (himp _ hosts)

theorem Fate.of_nothing_owned {hosted : Int → Prop} {o o' : Option Status}
    (fate : Fate hosted o o') (hnothing : ∀ st, o' = some st → st.isNormal = false) :
    o' = o.map Status.vacated ∧
      ∀ st, o = some st → st.isNormal = true → st.isStable = true ∧ hosted st.series := by
  cases fate with
  | kept =>
      cases o with
      | none => exact ⟨rfl, fun st hst => by cases hst⟩
      | some st =>
          have hnot := hnothing st rfl
          refine ⟨by simp [Status.vacated, hnot], fun st' hst' hnormal => ?_⟩
          obtain rfl := Option.some.inj hst'
          rw [hnot] at hnormal
          cases hnormal
  | @released st hsettled hosts =>
      obtain ⟨hnormal, hstable⟩ := Status.isSettled_iff.1 hsettled
      refine ⟨by simp [Status.vacated, hnormal], fun st' hst' _ => ?_⟩
      obtain rfl := Option.some.inj hst'
      exact ⟨hstable, hosts⟩

theorem Drain.source_entries (drain : Drain max i pool pool') (hs : pool[i]? = some s) :
    ∃ m, pool'[i]? = some { s with scraping := m } ∧
      ∀ h, Fate (fun series => ∃ j < i, pool'.Hosts max j h series) (s.scraping.get? h)
        (m.get? h) := by
  induction drain with
  | refl => exact ⟨s.scraping, hs, fun h => .kept _⟩
  | tail _ step ih =>
      obtain ⟨m, hm, hentries⟩ := ih
      obtain ⟨b, hb, hne, hs', -, hget, hsettled, ht, haccepts⟩ := step
      rename_i s' t k st
      obtain rfl : _ = s' := Option.some.inj (hm.symm.trans hs')
      refine ⟨(ShardState.release { s with scraping := m } k).scraping,
        by simp [hne.symm, hm, ShardState.release], fun h => ?_⟩
      have fate := hentries h
      rw [ShardState.get?_release]
      by_cases hkey : h = k
      · subst hkey
        rw [if_pos rfl]
        rw [hget] at fate ⊢
        generalize s.scraping.get? h = o at fate ⊢
        -- What has been released has not settled, so this target moves for the first time.
        cases fate with
        | kept => exact .released hsettled ⟨b, hb, Pool.hosts_moved hne ht haccepts⟩
        | released => cases hsettled
      · rw [if_neg hkey]
        apply fate.mono
        rintro series ⟨j, hj, hosts⟩
        exact ⟨j, hj, hosts.moved_of_ne hkey hne ht haccepts⟩

theorem Drain.vacates (drain : Drain max i pool pool') (hs : pool[i]? = some s)
    (hc : s.changeable = true) (hun : Undrained pool' i []) : Vacates max i pool pool' := by
  obtain ⟨m, hm, hentries⟩ := drain.source_entries hs
  obtain ⟨-, hnothing⟩ := hun.ownsNothing hm
  have hfate := fun h => (hentries h).of_nothing_owned (hnothing h)
  have hsource : m = s.scraping.map Status.vacated := by
    apply SortedMap.ext
    intro h
    rw [SortedMap.get?_map, (hfate h).1]
  refine ⟨drain, ⟨s, hs, hc, hsource ▸ hm⟩, fun e he => ?_⟩
  rw [Pool.ownedBy_of_getElem? hs, List.mem_filter] at he
  exact (hfate e.1).2 e.2 (SortedMap.get?_eq_some_iff.2 he.1) he.2

theorem Vacates.ownedBy_eq_nil {before after : Pool} (hvac : Vacates max i before after) :
    after.ownedBy i = [] := by
  obtain ⟨s, -, hc, hs⟩ := hvac.source
  apply Pool.ownedBy_eq_nil hs
  refine ⟨hc, fun h st hget => ?_⟩
  rw [SortedMap.get?_map] at hget
  obtain ⟨old, -, rfl⟩ := Option.map_eq_some_iff.1 hget
  cases hnormal : old.isNormal with
  | true =>
      rw [Status.vacated, if_pos hnormal]
      rfl
  | false => rw [Status.vacated, if_neg (by simp [hnormal]), hnormal]

theorem length_drainMoves {entries : List (Fingerprint × Status)} {loads : List (Bool × Int)}
    {moves : List (Fingerprint × Nat)} (hmoves : drainMoves max entries loads = some moves) :
    moves.length = (entries.filter (·.2.isNormal)).length := by
  induction entries generalizing loads moves with
  | nil =>
      obtain rfl : [] = moves := Option.some.inj hmoves
      rfl
  | cons e rest ih =>
      obtain ⟨h, st⟩ := e
      rw [drainMoves] at hmoves
      split at hmoves
      · rename_i hnormal
        obtain ⟨j, -, hmoves⟩ := Option.bind_eq_some_iff.1 hmoves
        obtain ⟨later, hlater, hmoves⟩ := Option.bind_eq_some_iff.1 hmoves
        obtain rfl : (h, j) :: later = moves := Option.some.inj hmoves
        rw [List.filter_cons, if_pos (Status.isNormal_iff.2 hnormal), List.length_cons,
          List.length_cons, ih hlater]
      · rename_i hnormal
        rw [List.filter_cons, if_neg fun hn => hnormal (Status.isNormal_iff.1 hn)]
        exact ih hmoves

/-! ## One step of the walk -/

def next (max : Int) (maxIdle now i : Nat) (acc : Shrunk) : Option Shrunk :=
  match verdict max maxIdle now acc.pool i with
  | .ends => none
  | .counts => some { acc with desired := acc.desired - 1 }
  | .drains moves =>
      some { acc with
        pool := (applyMoves i moves acc.pool).1
        transfers := acc.transfers + (applyMoves i moves acc.pool).2 }

theorem walk_succ_next (max : Int) (maxIdle now i : Nat) (acc : Shrunk) :
    walk max maxIdle now (i + 1) acc =
      (next max maxIdle now i acc).elim acc (walk max maxIdle now i) := by
  rw [walk_succ, next]
  cases verdict max maxIdle now acc.pool i <;> rfl

/-- What happens to shard `i`, and what becomes of the number of transfers. -/
inductive Treats (max : Int) (i : Nat) (acc acc' : Shrunk) : Prop
  | spares : acc'.pool = acc.pool → acc'.transfers = acc.transfers → Treats max i acc acc'
  | vacates : Vacates max i acc.pool acc'.pool →
      acc'.transfers = acc.transfers + (acc.pool.ownedBy i).length → Treats max i acc acc'

variable {acc acc' : Shrunk}

theorem treats_of_next (hnext : next max maxIdle now i acc = some acc') :
    Treats max i acc acc' := by
  rw [next] at hnext
  cases hverdict : verdict max maxIdle now acc.pool i <;>
    simp only [hverdict, Option.some.injEq, reduceCtorEq] at hnext
  case counts =>
    subst hnext
    exact .spares rfl rfl
  case drains moves =>
    subst hnext
    obtain ⟨s, hs, hc, -, hsettled, hmoves⟩ := verdict_eq_drains hverdict
    obtain ⟨drain, hcount, hun⟩ := planDrain_drain hs hc hsettled hmoves
    refine .vacates (drain.vacates hs hc hun) ?_
    rw [hcount, length_drainMoves hmoves, Pool.ownedBy_of_getElem? hs]

theorem Treats.drain (treats : Treats max i acc acc') : Drain max i acc.pool acc'.pool := by
  cases treats with
  | spares hpool _ =>
      rw [hpool]
  | vacates hvac _ => exact hvac.drain

theorem Treats.transfers_eq (treats : Treats max i acc acc') :
    acc'.transfers = acc.transfers +
      ((acc.pool.ownedBy i).length - (acc'.pool.ownedBy i).length) := by
  cases treats with
  | spares hpool htransfers => rw [htransfers, hpool, Nat.sub_self, Nat.add_zero]
  | vacates hvac htransfers =>
      rw [htransfers, hvac.ownedBy_eq_nil, List.length_nil, Nat.sub_zero]

/-! ## Stages of the walk -/

def walkTo (max : Int) (maxIdle now k : Nat) : Nat → Shrunk → Shrunk
  | 0, acc => acc
  | i + 1, acc =>
      if i < k then acc
      else (next max maxIdle now i acc).elim acc (walkTo max maxIdle now k i)

theorem walkTo_of_le {k n : Nat} (hnk : n ≤ k) (acc : Shrunk) :
    walkTo max maxIdle now k n acc = acc := by
  cases n with
  | zero => rfl
  | succ i => rw [walkTo, if_pos (Nat.lt_of_succ_le hnk)]

theorem walkTo_zero (n : Nat) (acc : Shrunk) :
    walkTo max maxIdle now 0 n acc = walk max maxIdle now n acc := by
  induction n generalizing acc with
  | zero => rfl
  | succ i ih =>
      rw [walkTo, if_neg (Nat.not_lt_zero i), walk_succ_next, funext ih]

/-- The walk has ended when it comes to shard `k`, or it ends there, or it goes on. -/
theorem walkTo_succ {k n : Nat} (hkn : k < n) (acc : Shrunk) :
    walkTo max maxIdle now k n acc = walkTo max maxIdle now (k + 1) n acc ∨
      next max maxIdle now k (walkTo max maxIdle now (k + 1) n acc) =
        some (walkTo max maxIdle now k n acc) := by
  -- The induction is on the shards still ahead, the next of which is `k` or a later one.
  induction n generalizing acc with
  | zero => cases hkn
  | succ i ih =>
      rcases Nat.lt_or_eq_of_le (Nat.le_of_lt_succ hkn) with hki | rfl
      · rw [walkTo, walkTo, if_neg (by omega), if_neg (by omega)]
        cases next max maxIdle now i acc with
        | none => exact .inl rfl
        | some acc' => exact ih hki acc'
      · rw [walkTo, if_neg (by omega), walkTo_of_le le_rfl]
        cases next max maxIdle now k acc with
        | none => exact .inl rfl
        | some acc' => exact .inr (by rw [Option.elim_some, walkTo_of_le le_rfl])

/-- The shrink as it stands when the shards from `k` on have been dealt with. -/
def stage (max : Int) (maxIdle now : Nat) (pool : Pool) (k : Nat) : Shrunk :=
  walkTo max maxIdle now k pool.length ⟨pool, pool.length, 0⟩

variable (max maxIdle now pool)

theorem stage_length : stage max maxIdle now pool pool.length = ⟨pool, pool.length, 0⟩ :=
  walkTo_of_le le_rfl _

theorem stage_zero : stage max maxIdle now pool 0 = shrink max maxIdle now pool :=
  walkTo_zero _ _

variable {max maxIdle now pool}

theorem stage_treats (hi : i < pool.length) :
    Treats max i (stage max maxIdle now pool (i + 1)) (stage max maxIdle now pool i) := by
  have hstep : stage max maxIdle now pool i = stage max maxIdle now pool (i + 1) ∨
      next max maxIdle now i (stage max maxIdle now pool (i + 1)) =
        some (stage max maxIdle now pool i) :=
    walkTo_succ hi _
  rcases hstep with hsame | hnext
  · rw [hsame]
    exact .spares rfl rfl
  · exact treats_of_next hnext

theorem stage_moves {k : Nat} (hk : k ≤ pool.length) :
    Moves max (stage max maxIdle now pool k).pool (shrink max maxIdle now pool).pool := by
  induction k with
  | zero =>
      rw [stage_zero]
  | succ k ih => exact (stage_treats hk).drain.moves.trans (ih (Nat.le_of_lt hk))

theorem shrink_getElem?_of_le {k : Nat} (hi : i < pool.length) (hki : k ≤ i) :
    (shrink max maxIdle now pool).pool[i]? = (stage max maxIdle now pool k).pool[i]? := by
  induction k with
  | zero => rw [stage_zero]
  | succ k ih =>
      rw [ih (Nat.le_of_lt hki)]
      exact (stage_treats (hki.trans hi.le)).drain.getElem?_of_gt hki

theorem stage_transfers {k : Nat} (hk : k ≤ pool.length) :
    (shrink max maxIdle now pool).transfers =
      ((List.range k).map fun i => ((stage max maxIdle now pool (i + 1)).pool.ownedBy i).length -
        ((shrink max maxIdle now pool).pool.ownedBy i).length).sum +
        (stage max maxIdle now pool k).transfers := by
  induction k with
  | zero => rw [stage_zero, List.range_zero, List.map_nil, List.sum_nil, Nat.zero_add]
  | succ k ih =>
      -- What shard `k` owns in the end is what its own step has left to it.
      rw [ih (Nat.le_of_lt hk), (stage_treats hk).transfers_eq, List.range_succ, List.map_append,
        List.sum_append, List.map_singleton, List.sum_singleton,
        Pool.ownedBy_congr (shrink_getElem?_of_le hk le_rfl)]
      omega

/-- Each shard is left alone or vacated when the walk comes to it, and stays so.  The transfers
are the entries that shards have let go of, and what is cut off owns nothing. -/
theorem shrink_vacates (max : Int) (maxIdle now : Nat) (pool : Pool) :
    (stage max maxIdle now pool pool.length = ⟨pool, pool.length, 0⟩ ∧
      stage max maxIdle now pool 0 = shrink max maxIdle now pool) ∧
    (∀ i < pool.length,
      ((stage max maxIdle now pool i).pool = (stage max maxIdle now pool (i + 1)).pool ∨
        Vacates max i (stage max maxIdle now pool (i + 1)).pool
          (stage max maxIdle now pool i).pool) ∧
      (shrink max maxIdle now pool).pool[i]? = (stage max maxIdle now pool i).pool[i]? ∧
      ∀ j h series, (stage max maxIdle now pool i).pool.Hosts max j h series →
        ∃ series', (shrink max maxIdle now pool).pool.Hosts max j h series') ∧
    (shrink max maxIdle now pool).transfers =
      ((List.range pool.length).map fun i =>
        ((stage max maxIdle now pool (i + 1)).pool.ownedBy i).length -
          ((shrink max maxIdle now pool).pool.ownedBy i).length).sum ∧
    ∀ i s, (shrink max maxIdle now pool).desired ≤ i →
      (shrink max maxIdle now pool).pool[i]? = some s → OwnsNothing s := by
  refine ⟨⟨stage_length max maxIdle now pool, stage_zero max maxIdle now pool⟩,
    fun i hi => ⟨?_, shrink_getElem?_of_le hi le_rfl, fun j h series hosts => ?_⟩, ?_,
    shrink_ownsNothing max maxIdle now pool⟩
  · have htreats : Treats max i (stage max maxIdle now pool (i + 1))
        (stage max maxIdle now pool i) :=
      stage_treats hi
    cases htreats with
    | spares hpool _ => exact .inl hpool
    | vacates hvac _ => exact .inr hvac
  · exact hosts.moves (stage_moves hi.le)
  · rw [stage_transfers le_rfl, stage_length, Nat.add_zero]

end Scaling

end ScrapeFleet
