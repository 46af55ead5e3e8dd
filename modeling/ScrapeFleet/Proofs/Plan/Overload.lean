import ScrapeFleet.Proofs.Plan.Load

/-!
# Shedding comes to rest

When shedding has gone over an overloaded shard, either little enough of what may
be moved is left, or no shard has room for anything that would be tried.  As loads
only grow, that stays so whatever planning does afterwards, and shedding again
would move nothing and ask for the same space.
-/

namespace ScrapeFleet

open Planning

variable {max : Int}

namespace ShardState

/-- To how many series what may be moved is to be brought down, if the shard is overloaded. -/
def limit? (max : Int) (s : ShardState) : Option Int :=
  (if s.changeable then Tier.of? s.head max else none).map (·.expected max)

/-- By how much what may be moved is above its limit. -/
def surplus (max : Int) (s : ShardState) : Int :=
  match s.limit? max with
  | none => 0
  | some limit => if limit < s.movableSeries then Word.sub s.movableSeries limit else 0

variable {s s' : ShardState} {most : Int}

theorem le_head_of_limit? (hmax : 0 < max) {limit : Int} (hs : s.limit? max = some limit) :
    max ≤ s.head := by
  by_contra hhead
  simp [limit?, Tier.of?_eq_none hmax (not_le.1 hhead)] at hs

theorem limit?_nonneg (hmax : 0 < max) {limit : Int} (hs : s.limit? max = some limit) :
    0 ≤ limit := by
  obtain ⟨tier, -, rfl⟩ := Option.map_eq_some_iff.1 hs
  exact tier.expected_nonneg hmax.le

theorem Grows.limit?_eq (hmax : 0 < max) (h : s.Grows max s') : s'.limit? max = s.limit? max := by
  rcases h.head_lt with hhead | hhead
  · rw [limit?, limit?, h.changeable, hhead]
  · have hbefore : s.head < max := h.head_le.trans_lt hhead
    simp [limit?, Tier.of?_eq_none hmax hhead, Tier.of?_eq_none hmax hbefore]

theorem Within.movableSeries_eq (hs : s.Within most) (hfits : s.burden max ≤ Word.maxSigned)
    (hfull : max ≤ s.head) : s.movableSeries = s.movable := by
  have hnonneg := hs.movable_nonneg
  rw [burden, if_pos hfull] at hfits
  rw [Shedding.movableSeries_eq_wrap]
  exact Word.wrap_eq_self ⟨(by decide : Word.minSigned ≤ 0).trans hnonneg, hfits⟩

theorem surplus_of_none (hlimit : s.limit? max = none) : s.surplus max = 0 := by
  rw [surplus, hlimit]

theorem Within.surplus_eq (hs : s.Within most) (hfits : s.burden max ≤ Word.maxSigned)
    (hmax : 0 < max) {limit : Int} (hlimit : s.limit? max = some limit) :
    s.surplus max = Max.max 0 (s.movable - limit) := by
  have hfull := le_head_of_limit? hmax hlimit
  have hlow := limit?_nonneg hmax hlimit
  have hnonneg := hs.movable_nonneg
  have hmin : Word.minSigned ≤ 0 := by decide
  rw [surplus, hlimit, hs.movableSeries_eq hfits hfull]
  rw [burden, if_pos hfull] at hfits
  dsimp only
  split
  · rw [Word.sub_eq ⟨by omega, by omega⟩]
    omega
  · omega

theorem Within.surplus_le (hs : s.Within most) (hfits : s.burden max ≤ Word.maxSigned)
    (hmax : 0 < max) : 0 ≤ s.surplus max ∧ s.surplus max ≤ s.burden max := by
  have hburden := hs.burden_nonneg max
  cases hlimit : s.limit? max with
  | none => exact ⟨(surplus_of_none hlimit).ge, (surplus_of_none hlimit).trans_le hburden⟩
  | some limit =>
      have hlow := limit?_nonneg hmax hlimit
      rw [hs.surplus_eq hfits hmax hlimit]
      rw [burden, if_pos (le_head_of_limit? hmax hlimit)] at hburden ⊢
      omega

end ShardState

def Pool.surplusAt (max : Int) (pool : Pool) (i : Nat) : Int :=
  (pool[i]?.map (·.surplus max)).getD 0

namespace Pool

variable {pool pool' : Pool} {most : Int}

theorem Bounded.surplusAt_nonneg (hpool : pool.Bounded max most) (hmax : 0 < max) (i : Nat) :
    0 ≤ pool.surplusAt max i := by
  unfold surplusAt
  cases hs : pool[i]? with
  | none => exact le_rfl
  | some s =>
      have hmem := List.mem_of_getElem? hs
      exact ((hpool.within s hmem).surplus_le (hpool.burden_fits hmem) hmax).1

theorem map_surplusAt (max : Int) (pool : Pool) :
    (List.range pool.length).map (pool.surplusAt max) = pool.map (·.surplus max) := by
  refine List.ext_getElem (by simp) fun i hi hi' => ?_
  rw [List.length_map] at hi'
  simp [surplusAt, hi']

theorem Bounded.sum_surplusAt (hpool : pool.Bounded max most) (hmax : 0 < max) :
    0 ≤ ((List.range pool.length).map (pool.surplusAt max)).sum ∧
      ((List.range pool.length).map (pool.surplusAt max)).sum ≤ pool.burden max := by
  constructor
  · refine List.sum_nonneg fun n hn => ?_
    obtain ⟨i, -, rfl⟩ := List.mem_map.1 hn
    exact hpool.surplusAt_nonneg hmax i
  · rw [map_surplusAt, burden]
    refine List.sum_le_sum fun s hs => ?_
    exact ((hpool.within s hs).surplus_le (hpool.burden_fits hs) hmax).2

end Pool

namespace Shedding

variable {pool pool' : Pool} {i : Nat} {most : Int}

theorem destination?_eq_none {series : Int} : destination? pool i series max = none ↔
    ∀ j t, j ≠ i → pool[j]? = some t → t.accepts series max = false := by
  rw [destination?, List.find?_eq_none]
  constructor
  · intro hnone j t hne ht
    have hj : j ∈ List.range pool.length := List.mem_range.2 (List.getElem?_eq_some_iff.1 ht).1
    simpa [hne, ht] using hnone j hj
  · intro hnone j _
    cases ht : pool[j]? with
    | none => simp
    | some t =>
        by_cases hne : j = i
        · simp [hne]
        · simp [hnone j t hne ht]

theorem destination?_grows {series : Int} (hpool : pool.Headroom max most)
    (hseries : 0 ≤ series ∧ series ≤ most) (hnone : destination? pool i series max = none)
    (h : pool.Grows max pool') : destination? pool' i series max = none := by
  rw [destination?_eq_none] at hnone ⊢
  exact fun j t' hne ht' => h.accepts_eq_false hpool hseries ht' fun t => hnone j t hne

theorem shedShard_eq (max : Int) (acc : Outcome) (i : Nat) : shedShard max acc i =
    match acc.pool[i]? with
    | none => acc
    | some s =>
      match s.limit? max with
      | none => acc
      | some limit =>
        let shed := shed max limit i (candidates s) s.movableSeries acc.pool
        { pool := shed.1
          transfers := acc.transfers + shed.2.2
          needSpace :=
            if limit < shed.2.1 then Word.add acc.needSpace (Word.sub shed.2.1 limit)
            else acc.needSpace } := by
  unfold shedShard ShardState.limit?
  cases acc.pool[i]? with
  | none => rfl
  | some s =>
      dsimp only
      cases (if s.changeable then Tier.of? s.head max else none) <;> rfl

/-! ## At rest -/

/-- There is nothing to move from shard `i`, or nowhere to move it. -/
def Stuck (max : Int) (pool : Pool) (i : Nat) : Prop :=
  ∀ s limit, pool[i]? = some s → s.limit? max = some limit →
    s.movableSeries ≤ limit ∨
      ∀ c ∈ (candidates s).takeWhile (·.2 ≤ max), destination? pool i c.2 max = none

theorem shed_of_stuck {limit total : Int} {cs : List (Fingerprint × Int)}
    (hstuck : total ≤ limit ∨ ∀ c ∈ cs.takeWhile (·.2 ≤ max), destination? pool i c.2 max = none) :
    shed max limit i cs total pool = (pool, total, 0) := by
  induction cs with
  | nil => rfl
  | cons c cs ih =>
      obtain ⟨h, series⟩ := c
      rw [shed]
      by_cases hstop : total ≤ limit ∨ max < series
      · rw [if_pos (by simpa using hstop)]
      · rw [if_neg (by simpa using hstop)]
        rw [not_or, not_le, not_lt] at hstop
        have hall := hstuck.resolve_left (not_le.2 hstop.1)
        rw [List.takeWhile_cons_of_pos (by simpa using hstop.2)] at hall
        rw [hall _ List.mem_cons_self]
        exact ih (.inr fun c hc => hall c (List.mem_cons_of_mem _ hc))

theorem shedShard_of_stuck {acc : Outcome} (hstuck : Stuck max acc.pool i)
    (hfits : Word.Fits acc.needSpace) :
    shedShard max acc i =
      { acc with needSpace := Word.add acc.needSpace (acc.pool.surplusAt max i) } := by
  have hsame : Word.add acc.needSpace 0 = acc.needSpace := Word.add_zero hfits
  rw [shedShard_eq, Pool.surplusAt]
  cases hs : acc.pool[i]? with
  | none => simp [hsame]
  | some s =>
      simp only [Option.map_some, Option.getD_some, ShardState.surplus]
      cases hlimit : s.limit? max with
      | none => simp [hsame]
      | some limit =>
          simp only [shed_of_stuck (hstuck s limit hs hlimit)]
          split <;> simp [hsame]

theorem run_of_stuck (hstuck : ∀ i, Stuck max pool i) :
    run max pool = ⟨pool, 0, Word.sum ((List.range pool.length).map (pool.surplusAt max))⟩ := by
  have hfold : ∀ (l : List Nat) {needSpace : Int}, Word.Fits needSpace →
      l.foldl (shedShard max) ⟨pool, 0, needSpace⟩ =
        ⟨pool, 0, (l.map (pool.surplusAt max)).foldl Word.add needSpace⟩ := by
    intro l
    induction l with
    | nil => exact fun _ => rfl
    | cons i l ih =>
        intro needSpace hfits
        rw [List.foldl_cons, shedShard_of_stuck (hstuck i) hfits, ih (Word.fits_add _ _),
          List.map_cons, List.foldl_cons]
  exact hfold _ (by decide)

/-! ## Staying at rest -/

theorem stuck_of_none (hs : pool[i]? = none) : Stuck max pool i ∧ pool.surplusAt max i = 0 := by
  refine ⟨fun s limit hget => ?_, by simp [Pool.surplusAt, hs]⟩
  rw [hs] at hget
  cases hget

/-- What is stuck stays stuck, with the same surplus, if loads grow and the shard is spared. -/
theorem Stuck.spared (hmax : 0 < max) (hpool : pool.Bounded max most) (hstuck : Stuck max pool i)
    (h : pool.Grows max pool') (hspares : pool.Spares max pool' i) :
    Stuck max pool' i ∧ pool'.surplusAt max i = pool.surplusAt max i := by
  cases hs : pool[i]? with
  | none =>
      have hs' : pool'[i]? = none := by
        rw [List.getElem?_eq_none_iff] at hs ⊢
        exact h.length_eq ▸ hs
      rw [(stuck_of_none hs).2]
      exact stuck_of_none hs'
  | some s =>
      obtain ⟨s', hs', hgrows⟩ := h.exists_getElem? hs
      have hlimit' := hgrows.limit?_eq hmax
      cases hlimit : s.limit? max with
      | none =>
          rw [hlimit] at hlimit'
          refine ⟨fun t limit ht htlimit => ?_, ?_⟩
          · obtain rfl : s' = t := Option.some.inj (hs'.symm.trans ht)
            rw [hlimit'] at htlimit
            cases htlimit
          · simp [Pool.surplusAt, hs, hs', ShardState.surplus, hlimit, hlimit']
      | some limit =>
          rw [hlimit] at hlimit'
          obtain ⟨t, ht, halike⟩ := hspares s hs (ShardState.le_head_of_limit? hmax hlimit)
          obtain rfl : s' = t := Option.some.inj (hs'.symm.trans ht)
          have hcandidates : candidates s' = candidates s := by
            rw [candidates, candidates, halike.scraping]
          have hmovable : s'.movableSeries = s.movableSeries := by
            rw [ShardState.movableSeries, ShardState.movableSeries, halike.scraping]
          refine ⟨fun t limit₁ ht htlimit => ?_, ?_⟩
          · obtain rfl : s' = t := Option.some.inj (hs'.symm.trans ht)
            obtain rfl : limit = limit₁ := Option.some.inj (hlimit'.symm.trans htlimit)
            rw [hcandidates, hmovable]
            refine (hstuck s limit hs hlimit).imp_right fun hnone c hc => ?_
            have hwithin := hpool.within s (List.mem_of_getElem? hs)
            exact destination?_grows hpool.toHeadroom
              (hwithin.of_candidate (List.takeWhile_subset _ hc)) (hnone c hc) h
          · simp [Pool.surplusAt, hs, hs', ShardState.surplus, hlimit, hlimit', hmovable]

theorem surplusAt_eq_zero (hpool : pool.Bounded max most) (hmax : 0 < max)
    (hsum : ((List.range pool.length).map (pool.surplusAt max)).sum ≤ 0) (i : Nat) :
    pool.surplusAt max i = 0 := by
  by_cases hi : i < pool.length
  · have hle := List.single_le_sum (l := (List.range pool.length).map (pool.surplusAt max))
      (fun x hx => by
        obtain ⟨k, -, rfl⟩ := List.mem_map.1 hx
        exact hpool.surplusAt_nonneg hmax k)
      _ (List.mem_map_of_mem (List.mem_range.2 hi))
    exact le_antisymm (hle.trans hsum) (hpool.surplusAt_nonneg hmax i)
  · exact (stuck_of_none (List.getElem?_eq_none (not_lt.1 hi))).2

theorem stuck_of_surplusAt_eq_zero (hmax : 0 < max) (hpool : pool.Bounded max most)
    (hpool' : pool'.Bounded max most)
    (hzero : pool.surplusAt max i = 0) (h : pool.Grows max pool') :
    Stuck max pool' i ∧ pool'.surplusAt max i = 0 := by
  cases hs' : pool'[i]? with
  | none => exact stuck_of_none hs'
  | some s' =>
      obtain ⟨s, hs, hgrows⟩ := h.getElem? hs'
      have hmem := List.mem_of_getElem? hs
      have hmem' := List.mem_of_getElem? hs'
      have hwithin' := hpool'.within s' hmem'
      have hburden' := hpool'.burden_fits hmem'
      have hlimit' := hgrows.limit?_eq hmax
      have hle : ∀ limit, s'.limit? max = some limit → s'.movable ≤ limit := by
        intro limit hlimit
        rw [hlimit'] at hlimit
        have hmovable := hgrows.movable_le (ShardState.le_head_of_limit? hmax hlimit)
        simp only [Pool.surplusAt, hs, Option.map_some, Option.getD_some,
          (hpool.within s hmem).surplus_eq (hpool.burden_fits hmem) hmax hlimit] at hzero
        omega
      refine ⟨fun t limit ht htlimit => ?_, ?_⟩
      · obtain rfl : s' = t := Option.some.inj (hs'.symm.trans ht)
        rw [hwithin'.movableSeries_eq hburden' (ShardState.le_head_of_limit? hmax htlimit)]
        exact .inl (hle limit htlimit)
      · simp only [Pool.surplusAt, hs', Option.map_some, Option.getD_some]
        cases hlimit : s'.limit? max with
        | none => exact ShardState.surplus_of_none hlimit
        | some limit =>
            rw [hwithin'.surplus_eq hburden' hmax hlimit]
            exact max_eq_left (sub_nonpos.2 (hle limit hlimit))

/-! ## Coming to rest -/

theorem mem_of_mem_takeWhile {p : Fingerprint × Int → Bool} {before after : List (Fingerprint × Int)}
    {c d : Fingerprint × Int} (hd : p d = false)
    (hc : c ∈ (before ++ d :: after).takeWhile p) : c ∈ before := by
  induction before with
  | nil => simp [hd] at hc
  | cons b before ih =>
      rw [List.cons_append, List.takeWhile_cons] at hc
      split at hc
      · rcases List.mem_cons.1 hc with rfl | hc
        · exact List.mem_cons_self
        · exact List.mem_cons_of_mem _ (ih hc)
      · cases hc

theorem transfer_candidate {before after : List (Fingerprint × Int)} {h : Fingerprint}
    {series : Int} {j : Nat} {s : ShardState} (hs : pool[i]? = some s) (hc : s.changeable = true)
    (hpool : pool.Bounded max most) (hcandidates : candidates s = before ++ (h, series) :: after)
    (hdest : destination? pool i series max = some j) :
    ∃ moved, pool.transfer i j h = some moved ∧ moved[i]? = some (s.release h) ∧
      candidates (s.release h) = before ++ after ∧
      (s.release h).movableSeries = Word.sub s.movableSeries series ∧
      pool.Grows max moved ∧ moved.Bounded max most ∧ ∀ k ≠ i, pool.Spares max moved k := by
  obtain ⟨hne, t, ht, haccepts⟩ := destination?_eq_some hdest
  obtain ⟨-, s₀, hs₀, -, hall⟩ := hasCandidates hs hc
  obtain rfl : s = s₀ := Option.some.inj (hs.symm.trans hs₀)
  obtain ⟨st, hget, hmovable, rfl⟩ := hall (h, series) (by simp [hcandidates])
  obtain ⟨moved, htransfer, move, heq⟩ := transfer_eq_some (Ne.symm hne) hs hc hget
    (isSettled_of_isMovable hmovable) ht haccepts
  have hreleased : candidates (s.release h) = before ++ after :=
    candidates_release_of_split hcandidates
  refine ⟨moved, htransfer, by simp [heq, hs, hne], hreleased, ?_, move.grows hpool⟩
  rw [movableSeries_eq_wrap, movableSeries_eq_wrap, hreleased, hcandidates, Word.sub,
    Word.wrap_wrap_sub]
  congr 1
  simp only [List.map_append, List.map_cons, List.sum_append, List.sum_cons]
  omega

/-- Shedding a shard moves targets away until what may be moved is within the limit, or nothing
that is left can be moved. -/
theorem shed_comes_to_rest (max limit : Int) {total : Int} {before cs : List (Fingerprint × Int)}
    {s : ShardState} (hs : pool[i]? = some s) (hc : s.changeable = true)
    (hpool : pool.Bounded max most) (hcandidates : candidates s = before ++ cs)
    (htotal : s.movableSeries = total)
    (hbefore : ∀ c ∈ before, destination? pool i c.2 max = none) :
    ∃ s', (shed max limit i cs total pool).1[i]? = some s' ∧
      s'.movableSeries = (shed max limit i cs total pool).2.1 ∧
      (s'.movableSeries ≤ limit ∨ ∀ c ∈ (candidates s').takeWhile (·.2 ≤ max),
        destination? (shed max limit i cs total pool).1 i c.2 max = none) ∧
      pool.Grows max (shed max limit i cs total pool).1 ∧
      Pool.Bounded max most (shed max limit i cs total pool).1 ∧
      ∀ k ≠ i, pool.Spares max (shed max limit i cs total pool).1 k := by
  induction cs generalizing pool s total before with
  | nil =>
      refine ⟨s, hs, htotal, .inr fun c hmem => ?_, .refl max pool, hpool, fun k _ => .refl max pool k⟩
      rw [hcandidates, List.append_nil] at hmem
      exact hbefore c (List.takeWhile_subset _ hmem)
  | cons c cs ih =>
      obtain ⟨h, series⟩ := c
      rw [shed]
      by_cases hstop : total ≤ limit ∨ max < series
      · rw [if_pos (by simpa using hstop)]
        refine ⟨s, hs, htotal, ?_, .refl max pool, hpool, fun k _ => .refl max pool k⟩
        refine hstop.imp (fun hle => htotal ▸ hle) fun hgreat c hmem => ?_
        rw [hcandidates] at hmem
        exact hbefore c (mem_of_mem_takeWhile (by simpa using hgreat) hmem)
      · rw [if_neg (by simpa using hstop)]
        cases hdest : destination? pool i series max with
        | none =>
            have hskipped : candidates s = (before ++ [(h, series)]) ++ cs := by
              simpa using hcandidates
            refine ih hs hc hpool hskipped htotal fun c hmem => ?_
            rcases List.mem_append.1 hmem with hmem | hmem
            · exact hbefore c hmem
            · rw [List.mem_singleton.1 hmem]
              exact hdest
        | some j =>
            obtain ⟨moved, htransfer, hsource, hreleased, hless, hgrows, hmoved, hspares⟩ :=
              transfer_candidate hs hc hpool hcandidates hdest
            have hstill : ∀ c ∈ before, destination? moved i c.2 max = none := by
              intro c hmem
              have hcandidate : c ∈ candidates s := by simp [hcandidates, hmem]
              exact destination?_grows hpool.toHeadroom
                ((hpool.within s (List.mem_of_getElem? hs)).of_candidate hcandidate)
                (hbefore c hmem) hgrows
            obtain ⟨s', hs', hmovable', hrest, hgrows', hbounded, hspares'⟩ :=
              ih hsource hc hmoved hreleased (htotal ▸ hless) hstill
            simp only [Option.bind_some, htransfer]
            exact ⟨s', hs', hmovable', hrest, hgrows.trans hgrows', hbounded,
              fun k hk => (hspares k hk).trans (hspares' k hk)⟩

/-- What holds once the shards before shard `n` have been shed. -/
structure Rested (max most : Int) (pool : Pool) (n : Nat) (acc : Outcome) : Prop where
  grows : pool.Grows max acc.pool
  bounded : acc.pool.Bounded max most
  stuck : ∀ i < n, Stuck max acc.pool i
  needSpace_eq : acc.needSpace = Word.sum ((List.range n).map (acc.pool.surplusAt max))

theorem Rested.stay {n : Nat} {acc : Outcome} (hacc : Rested max most pool n acc)
    (hstuck : Stuck max acc.pool n) : Rested max most pool (n + 1) (shedShard max acc n) := by
  rw [shedShard_of_stuck hstuck (hacc.needSpace_eq ▸ Word.fits_sum _)]
  refine ⟨hacc.grows, hacc.bounded, fun i hi => ?_, ?_⟩
  · rcases Nat.lt_succ_iff_lt_or_eq.1 hi with hlt | rfl
    · exact hacc.stuck i hlt
    · exact hstuck
  · rw [List.range_succ, List.map_append, Word.sum_append, ← hacc.needSpace_eq]
    rfl

theorem changeable_of_limit? {s : ShardState} {limit : Int} (hlimit : s.limit? max = some limit) :
    s.changeable = true := by
  by_contra hc
  simp [ShardState.limit?, hc] at hlimit

theorem Rested.shed (hmax : 0 < max) {n : Nat} {acc : Outcome} (hacc : Rested max most pool n acc)
    {s : ShardState} {limit : Int} (hs : acc.pool[n]? = some s) (hlimit : s.limit? max = some limit) :
    Rested max most pool (n + 1) (shedShard max acc n) := by
  obtain ⟨s', hs', hmovable, hrest, hgrows, hbounded, hspares⟩ :=
    shed_comes_to_rest max limit hs (changeable_of_limit? hlimit) hacc.bounded
      (List.nil_append (candidates s)).symm rfl fun c hc => absurd hc List.not_mem_nil
  rw [shedShard_eq]
  simp only [hs, hlimit]
  generalize Shedding.shed max limit n (candidates s) s.movableSeries acc.pool = shed at *
  obtain ⟨pool', total, transfers⟩ := shed
  dsimp only at hs' hmovable hrest hgrows hbounded hspares
  obtain ⟨t, ht, hgrows_s⟩ := hgrows.exists_getElem? hs
  obtain rfl : s' = t := Option.some.inj (hs'.symm.trans ht)
  have hlimit' : s'.limit? max = some limit := (hgrows_s.limit?_eq hmax).trans hlimit
  have hbefore : ∀ i < n, Stuck max pool' i ∧
      pool'.surplusAt max i = acc.pool.surplusAt max i :=
    fun i hi => (hacc.stuck i hi).spared hmax hacc.bounded hgrows (hspares i (Nat.ne_of_lt hi))
  have hsurplus : pool'.surplusAt max n = if limit < total then Word.sub total limit else 0 := by
    simp [Pool.surplusAt, hs', ShardState.surplus, hlimit', hmovable]
  refine ⟨hacc.grows.trans hgrows, hbounded, fun i hi => ?_, ?_⟩
  · rcases Nat.lt_succ_iff_lt_or_eq.1 hi with hlt | rfl
    · exact (hbefore i hlt).1
    · intro t limit₁ ht' hlimit₁
      obtain rfl : s' = t := Option.some.inj (hs'.symm.trans ht')
      obtain rfl : limit = limit₁ := Option.some.inj (hlimit'.symm.trans hlimit₁)
      exact hrest
  · have hsame : (List.range n).map (pool'.surplusAt max) =
        (List.range n).map (acc.pool.surplusAt max) :=
      List.map_congr_left fun i hi => (hbefore i (List.mem_range.1 hi)).2
    rw [List.range_succ, List.map_append, Word.sum_append, hsame, ← hacc.needSpace_eq,
      List.map_singleton, List.foldl_cons, List.foldl_nil, hsurplus]
    dsimp only
    split
    · rfl
    · exact (Word.add_zero (hacc.needSpace_eq ▸ Word.fits_sum _)).symm

theorem Rested.shedShard (hmax : 0 < max) {n : Nat} {acc : Outcome}
    (hacc : Rested max most pool n acc) :
    Rested max most pool (n + 1) (shedShard max acc n) := by
  by_cases hstuck : Stuck max acc.pool n
  · exact hacc.stay hstuck
  -- A shard that is not overloaded is stuck as it is.
  · obtain ⟨s, limit, hs, hlimit⟩ : ∃ s limit, acc.pool[n]? = some s ∧ s.limit? max = some limit := by
      by_contra hnone
      exact hstuck fun s limit hs hlimit => absurd ⟨s, limit, hs, hlimit⟩ hnone
    exact hacc.shed hmax hs hlimit

def upTo (max : Int) (pool : Pool) (n : Nat) : Outcome :=
  (List.range n).foldl (shedShard max) ⟨pool, 0, 0⟩

theorem upTo_succ (max : Int) (pool : Pool) (n : Nat) :
    upTo max pool (n + 1) = shedShard max (upTo max pool n) n := by
  rw [upTo, upTo, List.range_succ, List.foldl_append, List.foldl_cons, List.foldl_nil]

theorem rested_upTo (hmax : 0 < max) (hpool : pool.Bounded max most) (n : Nat) :
    Rested max most pool n (upTo max pool n) := by
  induction n with
  | zero => exact ⟨.refl max pool, hpool, fun i hi => absurd hi (Nat.not_lt_zero i), rfl⟩
  | succ n ih =>
      rw [upTo_succ]
      exact ih.shedShard hmax

/-- After shedding all shards are stuck, and the space that is asked for is their surplus. -/
theorem run_comes_to_rest (hmax : 0 < max) (hpool : pool.Bounded max most) :
    Rested max most pool pool.length (run max pool) :=
  rested_upTo hmax hpool pool.length

theorem needSpace_run_eq (hmax : 0 < max) (hpool : pool.Bounded max most) :
    (run max pool).needSpace =
        ((List.range pool.length).map ((run max pool).pool.surplusAt max)).sum ∧
      0 ≤ (run max pool).needSpace ∧ (run max pool).needSpace ≤ pool.burden max := by
  have hrested := run_comes_to_rest hmax hpool
  have hburden := hrested.grows.burden_le hpool.within
  obtain ⟨hnonneg, hle⟩ := hrested.bounded.sum_surplusAt hmax
  rw [← hrested.grows.length_eq] at hnonneg hle
  have hneed : (run max pool).needSpace = _ := hrested.needSpace_eq
  rw [Word.sum_eq ⟨(by decide : Word.minSigned ≤ 0).trans hnonneg,
    hle.trans hrested.bounded.burden_le⟩] at hneed
  exact ⟨hneed, hneed ▸ hnonneg, hneed ▸ hle.trans hburden⟩

theorem stuck_run (hmax : 0 < max) (hpool : pool.Bounded max most) (i : Nat) :
    Stuck max (run max pool).pool i := by
  have hrested := run_comes_to_rest hmax hpool
  by_cases hi : i < pool.length
  · exact hrested.stuck i hi
  · have hnone : (run max pool).pool[i]? = none := by
      rw [List.getElem?_eq_none_iff, ← hrested.grows.length_eq]
      exact not_lt.1 hi
    exact (stuck_of_none hnone).1

end Shedding

end ScrapeFleet
