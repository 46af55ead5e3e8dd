import Mathlib.Data.List.TakeWhile
import ScrapeFleet.Proofs.Plan.Receipts

/-!
# Capacity after shedding

Nothing arrives at an overloaded shard while others are shed, so it stays as it was until
its own turn and as its turn has left it from then on.  In its turn it gives movable
targets away as long as they are above its limit, and what is above the limit in the end
is either there to stay or has nowhere to go.
-/

namespace ScrapeFleet

open Planning

variable {max most : Int} {pool pool' : Pool} {i : Nat}

namespace ShardState

def releaseAll (s : ShardState) (log : List Receipt) : ShardState :=
  log.foldl (fun s r => s.release r.hash) s

theorem runtime_releaseAll (s : ShardState) (log : List Receipt) :
    (s.releaseAll log).runtime = s.runtime :=
  List.foldlRecOn (motive := fun s' : ShardState => s'.runtime = s.runtime) _ _ rfl
    fun _ hs' _ _ => hs'

theorem changeable_releaseAll (s : ShardState) (log : List Receipt) :
    (s.releaseAll log).changeable = s.changeable :=
  List.foldlRecOn (motive := fun s' : ShardState => s'.changeable = s.changeable) _ _ rfl
    fun _ hs' _ _ => hs'

def excess (max : Int) (s s' : ShardState) : Int :=
  match s.limit? max with
  | none => 0
  | some limit => Max.max 0 (s'.movableSeries - limit)

theorem Grows.surplus_eq (hmax : 0 < max) {s s' : ShardState} (h : s.Grows max s')
    (hs' : s'.Within most) (hfits : s'.burden max ≤ Word.maxSigned) :
    s'.surplus max = excess max s s' := by
  have hlimit' := h.limit?_eq hmax
  rw [excess]
  cases hlimit : s.limit? max with
  | none => exact surplus_of_none (hlimit'.trans hlimit)
  | some limit =>
      rw [hlimit] at hlimit'
      rw [hs'.surplus_eq hfits hmax hlimit',
        hs'.movableSeries_eq hfits (le_head_of_limit? hmax hlimit')]

end ShardState

/-! ## Full shards -/

namespace Planning

theorem Move.getElem?_of_full {k j : Nat} {s : ShardState} (move : Move max k j pool pool')
    (hpool : pool.Bounded max most) (hne : i ≠ k) (hs : pool[i]? = some s) (hfull : max ≤ s.head) :
    pool'[i]? = some s := by
  have hij : i ≠ j := by
    rintro rfl
    cases move with
    | @intro source t h st _ hsource _ hget _ ht haccepts =>
        obtain rfl : t = s := Option.some.inj (ht.symm.trans hs)
        have hseries := hpool.within source (List.mem_of_getElem? hsource) h st hget
        have hroom := ((hpool.shard t (List.mem_of_getElem? ht)).hasRoom_iff hseries).1
          (ShardState.hasRoom_of_accepts haccepts)
        omega
  rw [move.getElem?_of_ne hne hij, hs]

/-- What other shards give away does not reach a full one. -/
theorem MovesFrom.getElem?_of_full {k : Nat} {s : ShardState} (moves : MovesFrom max k pool pool')
    (hpool : pool.Bounded max most) (hne : i ≠ k) (hs : pool[i]? = some s) (hfull : max ≤ s.head) :
    pool'[i]? = some s := by
  induction moves with
  | refl => exact hs
  | tail earlier move ih =>
      obtain ⟨j, move⟩ := move
      exact move.getElem?_of_full (MovesFrom.moves earlier |>.grows hpool).2 hne ih hfull

end Planning

namespace Shedding

variable {s : ShardState}

/-! ## The turn of one shard -/

/-- A shard gives targets away one by one, each time because it is above the limit. -/
theorem shed_releases (max limit : Int) {total : Int} {before cs : List (Fingerprint × Int)}
    (hs : pool[i]? = some s) (hc : s.changeable = true) (hpool : pool.Bounded max most)
    (hcandidates : candidates s = before ++ cs) (htotal : s.movableSeries = total) :
    (shed max limit i cs total pool).1[i]? =
        some (s.releaseAll (shedReceipts max limit i cs total pool)) ∧
      ∀ log r, log ++ [r] <+: shedReceipts max limit i cs total pool →
        limit < (s.releaseAll log).movableSeries := by
  induction cs generalizing pool s total before with
  | nil => exact ⟨hs, by simp [shedReceipts]⟩
  | cons c cs ih =>
      obtain ⟨h, series⟩ := c
      rw [shed, shedReceipts]
      by_cases hstop : total ≤ limit ∨ max < series
      · rw [if_pos (by simpa using hstop), if_pos (by simpa using hstop)]
        exact ⟨hs, by simp⟩
      · rw [if_neg (by simpa using hstop), if_neg (by simpa using hstop)]
        rw [not_or, not_le] at hstop
        cases hdest : destination? pool i series max with
        | none =>
            have hskipped : candidates s = (before ++ [(h, series)]) ++ cs := by
              simpa using hcandidates
            exact ih hs hc hpool hskipped htotal
        | some j =>
            obtain ⟨moved, htransfer, hsource, hreleased, hless, -, hmoved, -⟩ :=
              transfer_candidate hs hc hpool hcandidates hdest
            obtain ⟨hrest, habove⟩ := ih hsource hc hmoved hreleased (htotal ▸ hless)
            simp only [Option.bind_some, htransfer]
            refine ⟨hrest, fun log r hlog => ?_⟩
            cases log with
            | nil => exact htotal ▸ hstop.1
            | cons r₀ log =>
                rw [List.cons_append, List.cons_prefix_cons] at hlog
                obtain ⟨rfl, hlog⟩ := hlog
                exact habove log r hlog

def given (max : Int) (pool : Pool) (i : Nat) : List Receipt :=
  shardReceipts max (upTo max pool i) i

theorem receipts_eq_flatMap (max : Int) (pool : Pool) :
    receipts max pool = (List.range pool.length).flatMap (given max pool) := by
  have hcollect : ∀ n, Receipt.collect (shedShard max) (shardReceipts max) (List.range n)
      ⟨pool, 0, 0⟩ = (List.range n).flatMap (given max pool) := by
    intro n
    induction n with
    | zero => rfl
    | succ n ih =>
        rw [List.range_succ, Receipt.collect_append, ih, List.flatMap_append]
        simp [Receipt.collect, given, upTo]
  exact hcollect pool.length

theorem shedShard_movesFrom (max : Int) (acc : Outcome) (i : Nat) :
    MovesFrom max i acc.pool (shedShard max acc i).pool := by
  rw [shedShard_eq]
  cases hs : acc.pool[i]? with
  | none => exact .refl
  | some s =>
      cases hlimit : s.limit? max with
      | none => simpa [hlimit] using .refl
      | some limit =>
          simp only [hlimit]
          exact shed_movesFrom s.movableSeries (hasCandidates hs (changeable_of_limit? hlimit))

/-- A full shard is as it was before its turn, and after it as its turn has left it. -/
theorem getElem?_upTo (hmax : 0 < max) (hpool : pool.Bounded max most) {limit : Int}
    (hs : pool[i]? = some s) (hlimit : s.limit? max = some limit) (n : Nat) :
    (upTo max pool n).pool[i]? = some (if n ≤ i then s else s.releaseAll (given max pool i)) := by
  have hfull : max ≤ s.head := ShardState.le_head_of_limit? hmax hlimit
  induction n with
  | zero => simpa [upTo] using hs
  | succ n ih =>
      have hbounded := (rested_upTo hmax hpool n).bounded
      rw [upTo_succ]
      rcases lt_trichotomy n i with hn | rfl | hn
      · rw [if_pos hn.le] at ih
        rw [if_pos (Nat.succ_le_of_lt hn)]
        exact (shedShard_movesFrom max _ n).getElem?_of_full hbounded hn.ne' ih hfull
      · rw [if_pos le_rfl] at ih
        rw [if_neg (Nat.not_succ_le_self n), shedShard_eq, given, shardReceipts]
        simp only [ih, hlimit]
        exact (shed_releases max limit ih (changeable_of_limit? hlimit) hbounded
          (List.nil_append _).symm rfl).1
      · rw [if_neg (by omega)] at ih ⊢
        refine (shedShard_movesFrom max _ n).getElem?_of_full hbounded hn.ne ih ?_
        rwa [ShardState.head, ShardState.runtime_releaseAll]

theorem getElem?_run (hmax : 0 < max) (hpool : pool.Bounded max most) {limit : Int}
    (hs : pool[i]? = some s) (hlimit : s.limit? max = some limit) :
    (run max pool).pool[i]? = some (s.releaseAll (given max pool i)) := by
  have hi : i < pool.length := (List.getElem?_eq_some_iff.1 hs).1
  have hrun := getElem?_upTo hmax hpool hs hlimit pool.length
  rwa [if_neg (not_le.2 hi)] at hrun

theorem limit_lt_of_given (hmax : 0 < max) (hpool : pool.Bounded max most) {limit : Int}
    (hs : pool[i]? = some s) (hlimit : s.limit? max = some limit) {log : List Receipt}
    {r : Receipt} (hlog : log ++ [r] <+: given max pool i) :
    limit < (s.releaseAll log).movableSeries := by
  have hbefore := getElem?_upTo hmax hpool hs hlimit i
  rw [if_pos le_rfl] at hbefore
  rw [given, shardReceipts, hbefore] at hlog
  simp only [hlimit] at hlog
  exact (shed_releases max limit hbefore (changeable_of_limit? hlimit)
    (rested_upTo hmax hpool i).bounded (List.nil_append _).symm rfl).2 log r hlog

/-! ## The whole pass -/

theorem needSpace_run (hmax : 0 < max) (hpool : pool.Bounded max most) : (run max pool).needSpace =
    (List.zipWith (ShardState.excess max) pool (run max pool).pool).sum := by
  have hrested := run_comes_to_rest hmax hpool
  have hlength : (run max pool).pool.length = pool.length := hrested.grows.length_eq.symm
  rw [(needSpace_run_eq hmax hpool).1]
  congr 1
  refine List.ext_getElem (by simp [hlength]) fun k hk _ => ?_
  rw [List.length_map, List.length_range] at hk
  have hs' := List.getElem?_eq_getElem (hlength ▸ hk)
  obtain ⟨s, hs, hgrows⟩ := hrested.grows.getElem? hs'
  obtain ⟨_, rfl⟩ := List.getElem?_eq_some_iff.1 hs
  have hmem' := List.mem_of_getElem? hs'
  simp [Pool.surplusAt, hs', hgrows.surplus_eq hmax (hrested.bounded.within _ hmem')
    (hrested.bounded.burden_fits hmem')]

theorem dest_ne_of_full (hs : pool[i]? = some s) (hfull : max ≤ s.head) (hpool : pool.Bounded max most)
    (hmax : 0 < max) : ∀ r ∈ receipts max pool, r.dest ≠ i := by
  intro r hr hdest
  obtain ⟨s', hs', hroom⟩ := (received_run [] max pool).1.head_lt ⟨r, hr, hdest⟩
  obtain ⟨t, ht, hgrows⟩ := (run_comes_to_rest hmax hpool).grows.getElem? hs'
  obtain rfl : t = s := Option.some.inj (ht.symm.trans hs)
  have hle := hgrows.head_le
  omega

/-- A stuck shard that is above its limit has a target too great for any shard, or finds no room
for any of those it could give away. -/
theorem Stuck.great_or_refused (hstuck : Stuck max pool i) {limit : Int} (hs : pool[i]? = some s)
    (hlimit : s.limit? max = some limit) (habove : limit < s.movableSeries) :
    (∃ h st, s.scraping.get? h = some st ∧ st.isMovable = true ∧ max < st.series) ∨
      ∀ h st, s.scraping.get? h = some st → st.isMovable = true → ∀ j t, j ≠ i →
        pool[j]? = some t → t.accepts st.series max = false := by
  by_cases hgreat : ∃ h st, s.scraping.get? h = some st ∧ st.isMovable = true ∧ max < st.series
  · exact .inl hgreat
  · -- Without a target that is too great, shedding has tried all of them.
    have hsmall : ∀ c ∈ candidates s, c.2 ≤ max := by
      rintro ⟨h, series⟩ hc
      obtain ⟨st, hget, hmovable, rfl⟩ := mem_candidates.1 hc
      exact not_lt.1 fun hlt => hgreat ⟨h, st, hget, hmovable, hlt⟩
    have hnone := (hstuck s limit hs hlimit).resolve_left (not_le.2 habove)
    rw [List.takeWhile_eq_self_iff.2 fun c hc => by simpa using hsmall c hc] at hnone
    exact .inr fun h st hget hmovable =>
      destination?_eq_none.1 (hnone (h, st.series) (mem_candidates.2 ⟨st, hget, hmovable, rfl⟩))

/-- The space that shedding asks for is by how much the shards stay above their limits.  All that is
received is given away by the shards in their turns.  No overloaded shard receives anything.  One
that may be changed gives targets away only as long as it is above its limit, and stays above it
only on account of a target too great for any shard, or because no other shard has room for any
target that it could still give away. -/
theorem run_capacity (hmax : 0 < max) (hpool : pool.Bounded max most) :
    let out := run max pool
    out.needSpace = (List.zipWith (ShardState.excess max) pool out.pool).sum ∧
      receipts max pool = (List.range pool.length).flatMap (given max pool) ∧
      ∀ (i : Nat) (s : ShardState) (tier : Tier), pool[i]? = some s →
        Tier.of? s.head max = some tier →
        (∀ r ∈ receipts max pool, r.dest ≠ i) ∧
          (s.changeable = true → ∃ s', out.pool[i]? = some s' ∧
            s' = s.releaseAll (given max pool i) ∧
            (∀ log r, log ++ [r] <+: given max pool i →
              tier.expected max < (s.releaseAll log).movableSeries) ∧
            (tier.expected max < s'.movableSeries →
              (∃ h st, s'.scraping.get? h = some st ∧ st.isMovable = true ∧ max < st.series) ∨
                ∀ h st, s'.scraping.get? h = some st → st.isMovable = true →
                  ∀ j t, j ≠ i → out.pool[j]? = some t → t.accepts st.series max = false)) := by
  intro out
  refine ⟨needSpace_run hmax hpool, receipts_eq_flatMap max pool,
    fun i s tier hs htier => ⟨?_, fun hc => ?_⟩⟩
  · refine dest_ne_of_full hs ?_ hpool hmax
    by_contra hhead
    rw [Tier.of?_eq_none hmax (not_le.1 hhead)] at htier
    cases htier
  · have hlimit : s.limit? max = some (tier.expected max) := by
      simp [ShardState.limit?, hc, htier]
    have hs' : out.pool[i]? = some (s.releaseAll (given max pool i)) :=
      getElem?_run hmax hpool hs hlimit
    refine ⟨_, hs', rfl, fun log r => limit_lt_of_given hmax hpool hs hlimit, ?_⟩
    refine (stuck_run hmax hpool i).great_or_refused hs' ?_
    rwa [ShardState.limit?, ShardState.head, ShardState.changeable_releaseAll,
      ShardState.runtime_releaseAll]

def lopsided : Pool :=
  [{ id := "s0", changeable := true, runtime := { headSeries := 185 },
     scraping := .ofList [(1, { health := .good, series := 30, scrapes := 5 }),
       (2, { health := .good, series := 50, scrapes := 5 })] },
   { id := "s1", changeable := true, runtime := { headSeries := 60 } }]

theorem run_capacity_of_lopsided :
    let out := run 100 lopsided
    Pool.Bounded 100 50 lopsided ∧ (given 100 lopsided 0).map (·.hash) = [1] ∧ out.needSpace = 50 ∧
      (∀ r ∈ receipts 100 lopsided, r.dest ≠ 0) ∧
      ∃ s', out.pool[0]? = some s' ∧ s'.movableSeries = 50 ∧
        ∀ h st, s'.scraping.get? h = some st → st.isMovable = true → ∀ j t, j ≠ 0 →
          out.pool[j]? = some t → t.accepts st.series 100 = false := by
  intro out
  have hpool : Pool.Bounded 100 50 lopsided := by
    have hentries : ∀ s ∈ lopsided, ∀ e ∈ s.scraping.entries, 0 ≤ e.2.series ∧ e.2.series ≤ 50 := by
      decide +kernel
    have hloads : ∀ s ∈ lopsided, Word.minSigned ≤ s.head ∧ s.head + 50 ≤ Word.maxSigned := by
      decide
    exact ⟨⟨by decide, fun s hs => ⟨(hloads s hs).1, (hloads s hs).2⟩⟩,
      fun s hs h st hst => hentries s hs (h, st) (SortedMap.get?_eq_some_iff.1 hst),
      by decide +kernel⟩
  obtain ⟨hneed, -, hall⟩ := run_capacity (by decide : (0 : Int) < 100) hpool
  obtain ⟨hreceives, hshard⟩ := hall 0 _ ⟨18, 0⟩ rfl (by decide +kernel)
  obtain ⟨s', hs', rfl, -, habove⟩ := hshard rfl
  have hleft : (run 100 lopsided).pool[0]?.any (fun s => s.movableSeries = 50 &&
      s.scraping.entries.all fun e => e.2.series ≤ 100) = true := by decide +kernel
  simp only [hs', Option.any_some, Bool.and_eq_true, decide_eq_true_eq, List.all_eq_true] at hleft
  obtain ⟨hmovable, hsmall⟩ := hleft
  refine ⟨hpool, by decide +kernel, hneed.trans (by decide +kernel), hreceives, ?_⟩
  refine ⟨_, hs', hmovable, (habove ?_).resolve_left ?_⟩
  · rw [hmovable]
    decide +kernel
  · rintro ⟨h, st, hget, -, hgreat⟩
    exact absurd (hsmall (h, st) (SortedMap.get?_eq_some_iff.1 hget)) (not_le.2 hgreat)

end Shedding

end ScrapeFleet
