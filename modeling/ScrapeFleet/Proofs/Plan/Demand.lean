import Mathlib.Algebra.BigOperators.Ring.Finset
import ScrapeFleet.Proofs.Plan.Load
import ScrapeFleet.Proofs.Plan.Placement

/-!
# Placement comes to rest

Placement finds a shard whenever one has room, in either mode.  So a target that is
wanted and not placed has been refused by all shards, and is so for the rest of the
cycle.  The space that placement asks for is what such targets need, and placing
again on the strength of the same estimates would place nothing and ask for the
same.
-/

namespace ScrapeFleet

variable {max : Int}

/-! ## A shard with room is found -/

namespace Draws

theorem scale?_lt {bound x : Nat} {draw : UInt64} (h : scale? bound draw = some x)
    (hbound : 0 < bound) : x < bound := by
  unfold scale? at h
  dsimp only at h
  split at h
  · obtain rfl := Option.some.inj h
    refine Nat.div_lt_of_lt_mul ?_
    exact Nat.mul_lt_mul_of_pos_right draw.toNat_lt hbound
  · cases h

theorem below_lt {bound : Nat} (hbound : 0 < bound) (draws : List UInt64) (used : Nat) :
    (below bound draws used).1 < bound := by
  induction draws generalizing used with
  | nil => exact hbound
  | cons v rest ih =>
      rw [below]
      split
      · rename_i x hx
        exact scale?_lt hx hbound
      · exact ih (used + 1)

theorem position_lt {weights : List Nat} {x : Nat} (hx : x < weights.foldr (· + ·) 0) :
    position weights x < weights.length := by
  induction weights generalizing x with
  | nil => exact absurd hx (Nat.not_lt_zero x)
  | cons w rest ih =>
      rw [position]
      split
      · exact Nat.succ_pos _
      · rw [List.foldr_cons] at hx
        exact Nat.succ_lt_succ (ih (by omega))

theorem weighted_of_lt {weights : List Nat} (htotal : weights.sum < Word.count64)
    (hpos : 0 < weights.sum) (d : Draws) :
    d.weighted weights = (some (position weights (below weights.sum d.ahead d.used).1),
      (below weights.sum d.ahead d.used).2) := by
  have hmod : weights.foldr (· + ·) 0 % Word.count64 = weights.sum := Nat.mod_eq_of_lt htotal
  rw [weighted, hmod]
  exact if_neg hpos.ne'

end Draws

/-- The free capacity of all shards together is an unsigned 64-bit number, and that of each of them
a signed one. -/
structure Pool.Weighable (max : Int) (pool : Pool) : Prop where
  shard : ∀ s ∈ pool, max - s.head ≤ Word.maxSigned
  total : (pool.map fun s => Max.max (max - s.head) 1).sum < Word.count64

theorem Pool.Weighable.grows {pool pool' : Pool} (hpool : pool.Weighable max)
    (h : pool.Grows max pool') : pool'.Weighable max := by
  refine ⟨fun s' hs' => ?_, lt_of_le_of_lt ?_ hpool.total⟩
  · obtain ⟨i, hi⟩ := List.mem_iff_getElem?.1 hs'
    obtain ⟨s, hs, hgrows⟩ := h.getElem? hi
    have hle := hpool.shard s (List.mem_of_getElem? hs)
    have hhead := hgrows.head_le
    omega
  · clear hpool
    induction h with
    | nil => exact le_rfl
    | cons hgrows _ ih =>
        have hhead := hgrows.head_le
        rw [List.map_cons, List.map_cons, List.sum_cons, List.sum_cons]
        omega

namespace Placement

variable {σ : Type} {p : Placement} {pool : Pool} {series most : Int}

theorem filter_accepts (pool : Pool) (series max : Int) :
    pool.filter (·.accepts series max) =
      (pool.zipIdx.filter (·.1.accepts series max)).map (·.1) := by
  have hfilter := List.filter_map (f := fun e : ShardState × Nat => e.1)
    (p := (·.accepts series max)) (l := pool.zipIdx)
  rw [List.zipIdx_map_fst] at hfilter
  exact hfilter

theorem length_eligible (pool : Pool) (series max : Int) :
    (eligible pool series max).length = (pool.filter (·.accepts series max)).length := by
  rw [eligible, List.length_map, filter_accepts, List.length_map]

def weights (pool : Pool) (series max : Int) : List Nat :=
  (pool.filter (·.accepts series max)).map (weight max)

/-- If shards are drawn, their weights add up to an unsigned 64-bit number. -/
def Weighs (p : Placement) (pool : Pool) (series max : Int) : Prop :=
  p = .weighted → (weights pool series max).sum < Word.count64

theorem weight_of_accepts {s : ShardState} (hhead : s.Headroom most)
    (hseries : 0 ≤ series ∧ series ≤ most) (hle : max - s.head ≤ Word.maxSigned)
    (haccepts : s.accepts series max = true) :
    (weight max s : Int) = Max.max (max - s.head) 1 := by
  have hroom := (hhead.hasRoom_iff hseries).1 (ShardState.hasRoom_of_accepts haccepts)
  have hmin : Word.minSigned ≤ 0 := by decide
  rw [weight, Word.sub_eq ⟨by omega, hle⟩]
  omega

theorem weighs_of_weighable (hpool : pool.Headroom max most)
    (hseries : 0 ≤ series ∧ series ≤ most) (hweights : p = .weighted → pool.Weighable max) :
    p.Weighs pool series max := by
  intro hp
  obtain ⟨hshard, htotal⟩ := hweights hp
  have hweight : ∀ s ∈ pool.filter (·.accepts series max),
      (weight max s : Int) = Max.max (max - s.head) 1 := by
    intro s hs
    obtain ⟨hmem, haccepts⟩ := List.mem_filter.1 hs
    exact weight_of_accepts (hpool.shard s hmem) hseries (hshard s hmem) haccepts
  have hsum : ((weights pool series max).sum : Int) =
      ((pool.filter (·.accepts series max)).map fun s => Max.max (max - s.head) 1).sum := by
    rw [weights, Nat.cast_list_sum, List.map_map]
    exact congrArg List.sum (List.map_congr_left hweight)
  have hle : ((pool.filter (·.accepts series max)).map fun s => Max.max (max - s.head) 1).sum ≤
      (pool.map fun s => Max.max (max - s.head) 1).sum := by
    refine (List.filter_sublist.map _).sum_le_sum fun n hn => ?_
    obtain ⟨s, -, rfl⟩ := List.mem_map.1 hn
    exact zero_le_one.trans (le_max_right _ _)
  exact Int.ofNat_lt.1 (hsum.trans_lt (lt_of_le_of_lt hle htotal))

theorem pick_of_refuses (p : Placement) (hrefuses : pool.Refuses max series) (d : Draws) :
    (p.pick pool series max d).1 = none := by
  cases p with
  | firstFit => exact List.findIdx?_eq_none_iff.2 hrefuses
  | weighted =>
      have hnone : pool.filter (·.accepts series max) = [] :=
        List.filter_eq_nil_iff.2 fun s hs => by simp [hrefuses s hs]
      rw [pick, hnone]
      rfl

theorem sum_weights_pos {s : ShardState} (hs : s ∈ pool)
    (haccepts : s.accepts series max = true) : 0 < (weights pool series max).sum := by
  have hmem : weight max s ∈ weights pool series max :=
    List.mem_map_of_mem (List.mem_filter.2 ⟨hs, haccepts⟩)
  have hle := List.single_le_sum (fun _ _ => Nat.zero_le _) _ hmem
  have hpos : 1 ≤ weight max s := by
    simp only [weight]
    omega
  exact hpos.trans hle

theorem pick_eq_none_iff (hweighs : p.Weighs pool series max) {d : Draws} :
    (p.pick pool series max d).1 = none ↔ pool.Refuses max series := by
  refine ⟨fun hpick => ?_, fun hrefuses => pick_of_refuses p hrefuses d⟩
  cases p with
  | firstFit => exact List.findIdx?_eq_none_iff.1 hpick
  | weighted =>
      intro s hs
      by_contra haccepts
      have hpos := sum_weights_pos hs (Bool.not_eq_false _ ▸ haccepts)
      have hlt := Draws.position_lt (Draws.below_lt hpos d.ahead d.used)
      rw [weights, List.length_map, ← length_eligible] at hlt
      have hdrawn := Draws.weighted_of_lt (hweighs rfl) hpos d
      rw [weights] at hdrawn
      simp only [pick, hdrawn, Option.bind_some, List.getElem?_eq_getElem hlt] at hpick
      cases hpick

end Placement

/-! ## Targets that some shard holds -/

namespace ShardState

theorem contains_release (s : ShardState) (h k : Fingerprint) :
    (s.release h).scraping.contains k = s.scraping.contains k := by
  rw [SortedMap.contains, SortedMap.contains, get?_release]
  split <;> simp

theorem contains_receive (s : ShardState) (h k : Fingerprint) (series : Int) :
    (s.receive h series).scraping.contains k = (decide (k = h) || s.scraping.contains k) := by
  rw [SortedMap.contains, SortedMap.contains, get?_receive]
  split <;> simp [*]

end ShardState

namespace Pool

variable {pool pool' : Pool} {i j : Nat} {h k : Fingerprint}

theorem holds_iff : pool.holds h = true ↔ ∃ i : Nat, pool[i]?.any (·.scraping.contains h) = true := by
  simp only [holds, List.any_eq_true, List.mem_iff_getElem?, Option.any_eq_true]
  constructor
  · rintro ⟨s, ⟨i, hs⟩, hh⟩
    exact ⟨i, s, hs, hh⟩
  · rintro ⟨i, s, hs, hh⟩
    exact ⟨s, ⟨i, hs⟩, hh⟩

theorem holds_modify {f : ShardState → ShardState}
    (hf : ∀ s, (f s).scraping.contains h = s.scraping.contains h) :
    holds (pool.modify i f) h = pool.holds h := by
  have hget : ∀ k : Nat, (pool.modify i f)[k]?.any (·.scraping.contains h) =
      pool[k]?.any (·.scraping.contains h) := by
    intro k
    rw [List.getElem?_modify]
    cases pool[k]? with
    | none => rfl
    | some s =>
        by_cases hik : i = k
        · simp [hik, hf]
        · simp [hik]
  rw [Bool.eq_iff_iff, holds_iff, holds_iff]
  simp only [hget]

theorem holds_receive {s : ShardState} (hs : pool[j]? = some s) (h k : Fingerprint) (series : Int) :
    holds (pool.modify j (·.receive h series)) k = (decide (k = h) || pool.holds k) := by
  by_cases hk : k = h
  · subst hk
    simp only [decide_true, Bool.true_or]
    exact holds_iff.2 ⟨j, by simp [hs, ShardState.contains_receive]⟩
  · rw [holds_modify fun s => by simp [ShardState.contains_receive, hk]]
    simp [hk]

end Pool

theorem Planning.Move.holds_eq {i j : Nat} {pool pool' : Pool} (move : Planning.Move max i j pool pool')
    (h : Fingerprint) : pool'.holds h = pool.holds h := by
  cases move with
  | @intro s t k st hne hs hc hget hsettled ht haccepts =>
      have ht' : (pool.modify i (·.release k))[j]? = some t := by simp [hne, ht]
      rw [Pool.holds_receive ht', Pool.holds_modify fun s => s.contains_release k h]
      by_cases hk : h = k
      · have hheld : pool.holds h = true :=
          Pool.holds_iff.2 ⟨i, by simp [hs, SortedMap.contains, hk, hget]⟩
        simp [hheld]
      · simp [hk]

/-! ## What is wanted -/

/-- Exploration answers by a function of the target, which gives no negative series and at most
`most`. -/
structure Lookup.Answers {σ : Type} (lookup : Lookup σ) (answer : Fingerprint → Option Status)
    (most : Int) : Prop where
  explore : ∀ job t e, (lookup.explore job t e).1 = answer t.hash
  estimate : ∀ job h e, lookup.estimate job h e = answer h
  within : ∀ h st, answer h = some st → 0 ≤ st.series ∧ st.series ≤ most

namespace Placement

variable {σ : Type} {p : Placement} {pool pool' : Pool} {answer : Fingerprint → Option Status}
  {most : Int}

def wanted (max : Int) (estimate : Option Status) : Option Int :=
  estimate.bind fun st => if st.health ≠ .good || max < st.series then none else some st.series

theorem place_eq (p : Placement) (max : Int) (h : Fingerprint) (estimate : Option Status)
    (acc : Outcome σ) : place p max h estimate acc =
      match wanted max estimate with
      | none => acc
      | some series =>
        match p.pick acc.pool series max acc.draws with
        | (none, draws) => { acc with needSpace := Word.add acc.needSpace series, draws }
        | (some j, draws) =>
          { acc with
            pool := acc.pool.modify j (·.receive h series)
            placed := acc.placed + 1
            draws } := by
  unfold place wanted
  cases estimate with
  | none => rfl
  | some st =>
      dsimp only [Option.bind_some]
      split <;> rfl

theorem wanted_eq_some_iff {estimate : Option Status} {series : Int} :
    wanted max estimate = some series ↔
      ∃ st, estimate = some st ∧ st.health = .good ∧ st.series ≤ max ∧ st.series = series := by
  unfold wanted
  cases estimate with
  | none => simp
  | some st =>
      by_cases hgood : st.health = .good <;> by_cases hgreat : max < st.series <;>
        simp [hgood, hgreat, not_le.2, le_of_not_gt]

theorem within_of_wanted {lookup : Lookup σ} (hanswers : lookup.Answers answer most)
    {h : Fingerprint} {series : Int} (hwanted : wanted max (answer h) = some series) :
    0 ≤ series ∧ series ≤ most := by
  obtain ⟨st, hst, -, -, rfl⟩ := wanted_eq_some_iff.1 hwanted
  exact hanswers.within h st hst

def demand (max : Int) (answer : Fingerprint → Option Status) (pool : Pool) (h : Fingerprint) : Int :=
  if pool.holds h then 0 else (wanted max (answer h)).getD 0

theorem getD_wanted_nonneg {lookup : Lookup σ} (hanswers : lookup.Answers answer most) (max : Int)
    (h : Fingerprint) : 0 ≤ (wanted max (answer h)).getD 0 := by
  cases hwanted : wanted max (answer h) with
  | none => exact le_rfl
  | some series => exact (within_of_wanted hanswers hwanted).1

theorem demand_nonneg {lookup : Lookup σ} (hanswers : lookup.Answers answer most) (max : Int)
    (pool : Pool) (h : Fingerprint) : 0 ≤ demand max answer pool h := by
  unfold demand
  split
  · exact le_rfl
  · exact getD_wanted_nonneg hanswers max h

theorem demand_le {lookup : Lookup σ} (hanswers : lookup.Answers answer most) (max : Int)
    (pool : Pool) (h : Fingerprint) :
    demand max answer pool h ≤ (wanted max (answer h)).getD 0 := by
  unfold demand
  split
  · exact getD_wanted_nonneg hanswers max h
  · exact le_rfl

/-- Some shard holds the target, or it is not wanted, or all shards refuse it. -/
def Served (max : Int) (answer : Fingerprint → Option Status) (pool : Pool) (h : Fingerprint) : Prop :=
  pool.holds h = true ∨ ∀ series, wanted max (answer h) = some series → pool.Refuses max series

theorem demand_eq_of_holds {h : Fingerprint} (hholds : pool'.holds h = pool.holds h) :
    demand max answer pool' h = demand max answer pool h := by
  rw [demand, demand, hholds]

theorem Served.grows {h : Fingerprint} (hserved : Served max answer pool h)
    {lookup : Lookup σ} (hanswers : lookup.Answers answer most) (hpool : pool.Headroom max most)
    (hholds : pool'.holds h = pool.holds h) (hgrows : pool.Grows max pool') :
    Served max answer pool' h :=
  hserved.imp (hholds ▸ ·) fun hrefuses series hwanted =>
    (hrefuses series hwanted).grows hpool (within_of_wanted hanswers hwanted) hgrows

/-! ## Coming to rest -/

/-- What holds once some of the listed targets have been dealt with. -/
structure Dealt (max most : Int) (answer : Fingerprint → Option Status) (pool : Pool)
    (items : List (String × Target)) (acc : Outcome σ) : Prop where
  grows : pool.Grows max acc.pool
  bounded : acc.pool.Bounded max most
  spares : ∀ i, pool.Spares max acc.pool i
  served : ∀ item ∈ items, Served max answer acc.pool item.2.hash
  needSpace_eq :
    acc.needSpace = Word.sum (items.map fun item => demand max answer acc.pool item.2.hash)

variable {items : List (String × Target)} {acc acc' : Outcome σ} {lookup : Lookup σ}

theorem Dealt.stay (hacc : Dealt max most answer pool items acc) {item : String × Target}
    (hpool : acc'.pool = acc.pool)
    (hneed : acc'.needSpace = Word.add acc.needSpace (demand max answer acc.pool item.2.hash))
    (hserved : Served max answer acc.pool item.2.hash) :
    Dealt max most answer pool (items ++ [item]) acc' := by
  refine ⟨hpool ▸ hacc.grows, hpool ▸ hacc.bounded, hpool ▸ hacc.spares, fun other hother => ?_, ?_⟩
  · rw [hpool]
    rcases List.mem_append.1 hother with hmem | hmem
    · exact hacc.served other hmem
    · rw [List.mem_singleton.1 hmem]
      exact hserved
  · rw [hneed, hpool, hacc.needSpace_eq, List.map_append, Word.sum_append]
    rfl

theorem Dealt.add_zero (hacc : Dealt max most answer pool items acc) :
    Word.add acc.needSpace 0 = acc.needSpace :=
  Word.add_zero (hacc.needSpace_eq ▸ Word.fits_sum _)

theorem Dealt.placed (hacc : Dealt max most answer pool items acc)
    (hanswers : lookup.Answers answer most) {item : String × Target} {j : Nat}
    {t : ShardState} {series : Int} (hholds : acc.pool.holds item.2.hash = false)
    (hwanted : wanted max (answer item.2.hash) = some series)
    (ht : acc.pool[j]? = some t) (haccepts : t.accepts series max = true)
    (hpool : acc'.pool = acc.pool.modify j (·.receive item.2.hash series))
    (hneed : acc'.needSpace = acc.needSpace) :
    Dealt max most answer pool (items ++ [item]) acc' := by
  have hseries := within_of_wanted hanswers hwanted
  have hheadroom := hacc.bounded.toHeadroom
  obtain ⟨hgrows, hspares⟩ := Pool.grows_receive hheadroom hseries ht haccepts item.2.hash
  have hbounded := hacc.bounded.modify hgrows fun s hs => hs.receive _ hseries
  rw [← hpool] at hgrows hspares hbounded
  have hnow : ∀ k, acc'.pool.holds k = (decide (k = item.2.hash) || acc.pool.holds k) := by
    intro k
    rw [hpool]
    exact Pool.holds_receive ht _ k series
  -- The same target cannot have been refused before, as all shards would refuse it still.
  have hother : ∀ other ∈ items, other.2.hash ≠ item.2.hash := by
    intro other hmem heq
    rcases hacc.served other hmem with hheld | hrefused
    · rw [heq, hholds] at hheld
      cases hheld
    · have hrefuses := hrefused series (heq ▸ hwanted) t (List.mem_of_getElem? ht)
      rw [haccepts] at hrefuses
      cases hrefuses
  have hsame : ∀ other ∈ items, acc'.pool.holds other.2.hash = acc.pool.holds other.2.hash :=
    fun other hmem => by simp [hnow, hother other hmem]
  have hheld : acc'.pool.holds item.2.hash = true := by simp [hnow]
  refine ⟨hacc.grows.trans hgrows, hbounded, fun i => (hacc.spares i).trans (hspares i),
    fun other hmem => ?_, ?_⟩
  · rcases List.mem_append.1 hmem with hmem | hmem
    · exact (hacc.served other hmem).grows hanswers hheadroom (hsame other hmem) hgrows
    · rw [List.mem_singleton.1 hmem]
      exact .inl hheld
  · have hdemand : items.map (fun other => demand max answer acc'.pool other.2.hash) =
        items.map fun other => demand max answer acc.pool other.2.hash :=
      List.map_congr_left fun other hmem => demand_eq_of_holds (hsame other hmem)
    rw [hneed, List.map_append, Word.sum_append, hdemand, ← hacc.needSpace_eq, List.map_singleton,
      List.foldl_cons, List.foldl_nil, demand, if_pos hheld, hacc.add_zero]

theorem Dealt.placeTarget (hacc : Dealt max most answer pool items acc)
    (hanswers : lookup.Answers answer most) (hweights : p = .weighted → pool.Weighable max)
    (item : String × Target) :
    Dealt max most answer pool (items ++ [item]) (placeTarget p lookup ∅ max acc item) := by
  obtain ⟨job, t⟩ := item
  unfold Placement.placeTarget
  dsimp only
  cases hholds : acc.pool.holds t.hash with
  | true =>
      rw [if_pos rfl]
      exact hacc.stay rfl (by simp [demand, hholds, hacc.add_zero]) (.inl hholds)
  | false =>
      have hask := hanswers.explore job t acc.explored
      have hestimate : estimate lookup ∅ job t acc.explored = lookup.explore job t acc.explored := rfl
      rw [if_neg Bool.false_ne_true, hestimate, place_eq, hask]
      cases hwanted : wanted max (answer t.hash) with
      | none =>
          exact hacc.stay rfl (by simp [demand, hwanted, hacc.add_zero])
            (.inr fun series hseries => by simp [hwanted] at hseries)
      | some series =>
          dsimp only
          rcases hpick : p.pick acc.pool series max acc.draws with ⟨_ | j, draws⟩
          · have hweighs : p.Weighs acc.pool series max :=
              weighs_of_weighable hacc.bounded.toHeadroom (within_of_wanted hanswers hwanted)
                fun hp => (hweights hp).grows hacc.grows
            have hrefuses := (pick_eq_none_iff hweighs).1 (congrArg Prod.fst hpick)
            refine hacc.stay rfl (by simp [demand, hholds, hwanted]) (.inr fun series' hseries' => ?_)
            obtain rfl : series = series' := Option.some.inj (hwanted.symm.trans hseries')
            exact hrefuses
          · obtain ⟨t', ht', haccepts⟩ := accepts_of_pick hpick
            exact hacc.placed hanswers hholds hwanted ht' haccepts rfl rfl

/-- After placement every active target is held, not wanted, or refused by all shards, and the
space that is asked for is what the refused ones need. -/
theorem run_comes_to_rest (hanswers : lookup.Answers answer most) (hpool : pool.Bounded max most)
    (hweights : p = .weighted → pool.Weighable max) (active : TargetsByJob) (draws : Draws)
    (explored : σ) :
    Dealt max most answer pool active.listed (p.run lookup ∅ max active pool draws explored) := by
  have hfold : ∀ (l items : List (String × Target)) (acc : Outcome σ),
      Dealt max most answer pool items acc →
      Dealt max most answer pool (items ++ l)
        (l.foldl (Placement.placeTarget p lookup ∅ max) acc) := by
    intro l
    induction l with
    | nil => exact fun items acc hacc => by simpa using hacc
    | cons item l ih =>
        intro items acc hacc
        have hnext := ih (items ++ [item]) _ (hacc.placeTarget hanswers hweights item)
        simpa using hnext
  refine hfold active.listed [] ⟨pool, 0, 0, draws, explored⟩
    ⟨.refl max pool, hpool, fun i => .refl max pool i, fun item hmem => ?_, rfl⟩
  cases hmem

/-! ## At rest -/

theorem placeTarget_of_served {known : StatusMap} {job : String} {t : Target} (p : Placement)
    (hserved : Served max answer acc.pool t.hash)
    (hknown : acc.pool.holds t.hash = false →
      wanted max (estimate lookup known job t acc.explored).1 = wanted max (answer t.hash))
    (hfits : Word.Fits acc.needSpace) :
    (Placement.placeTarget p lookup known max acc (job, t)).pool = acc.pool ∧
      (Placement.placeTarget p lookup known max acc (job, t)).placed = acc.placed ∧
      (Placement.placeTarget p lookup known max acc (job, t)).needSpace =
        Word.add acc.needSpace (demand max answer acc.pool t.hash) := by
  have hsame := Word.add_zero hfits
  unfold Placement.placeTarget
  dsimp only
  cases hholds : acc.pool.holds t.hash with
  | true =>
      rw [if_pos rfl]
      simp [demand, hholds, hsame]
  | false =>
      rw [if_neg Bool.false_ne_true, place_eq, hknown hholds]
      cases hwanted : wanted max (answer t.hash) with
      | none => simp [demand, hwanted, hsame]
      | some series =>
          have hrefuses : acc.pool.Refuses max series :=
            hserved.resolve_left (by simp [hholds]) series hwanted
          have hnone := pick_of_refuses p hrefuses acc.draws
          rcases hpick : p.pick acc.pool series max acc.draws with ⟨_ | j, draws⟩
          · simp [hpick, demand, hholds, hwanted]
          · rw [hpick] at hnone
            cases hnone

/-- Where every target is served, placement places nothing, if it goes by the same estimates. -/
theorem run_of_served {known : StatusMap} {active : TargetsByJob} (p : Placement)
    (hknown : ∀ job t e, (job, t) ∈ active.listed → pool.holds t.hash = false →
      wanted max (estimate lookup known job t e).1 = wanted max (answer t.hash))
    (hserved : ∀ item ∈ active.listed, Served max answer pool item.2.hash) (draws : Draws)
    (explored : σ) :
    (p.run lookup known max active pool draws explored).pool = pool ∧
      (p.run lookup known max active pool draws explored).placed = 0 ∧
      (p.run lookup known max active pool draws explored).needSpace =
        Word.sum (active.listed.map fun item => demand max answer pool item.2.hash) := by
  have hfold : ∀ (l : List (String × Target)) (acc : Outcome σ), l ⊆ active.listed →
      acc.pool = pool → Word.Fits acc.needSpace → (l.foldl (Placement.placeTarget p lookup known max) acc).pool = pool ∧
        (l.foldl (Placement.placeTarget p lookup known max) acc).placed = acc.placed ∧
        (l.foldl (Placement.placeTarget p lookup known max) acc).needSpace =
          (l.map fun item => demand max answer pool item.2.hash).foldl Word.add acc.needSpace := by
    intro l
    induction l with
    | nil => exact fun acc _ hpool _ => ⟨hpool, rfl, rfl⟩
    | cons item l ih =>
        rintro acc hsub rfl hfits
        have hmem := hsub List.mem_cons_self
        obtain ⟨hpool, hplaced, hneed⟩ := placeTarget_of_served p (hserved item hmem)
          (hknown item.1 item.2 acc.explored hmem) hfits
        obtain ⟨hpool', hplaced', hneed'⟩ := ih _ (List.subset_of_cons_subset hsub) hpool
          (hneed ▸ Word.fits_add _ _)
        refine ⟨hpool', hplaced'.trans hplaced, ?_⟩
        rw [List.foldl_cons, hneed', hneed, List.map_cons, List.foldl_cons]
  exact hfold active.listed ⟨pool, 0, 0, draws, explored⟩ (List.Subset.refl _) rfl
    (by decide : Word.Fits 0)

end Placement

end ScrapeFleet
