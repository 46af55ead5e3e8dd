import Mathlib.Algebra.Order.Floor.Div
import Mathlib.Data.Nat.Count
import Mathlib.Order.Interval.Finset.Nat
import ScrapeFleet.Proofs.Plan.Demand

/-!
# Weighted placement is fair

The numbers for which a shard is picked form an interval that is as long as the weight of
the shard, and every number below the total weight comes from equally many words.  So of
all words that are not refused, each shard gets the share that its free capacity is of the
free capacity of all candidates.
-/

namespace ScrapeFleet

theorem count_between {p : Nat → Prop} [DecidablePred p] {lo hi n : Nat} (hhi : hi ≤ n)
    (hp : ∀ v < n, p v ↔ lo ≤ v ∧ v < hi) : Nat.count p n = hi - lo := by
  have hfilter : (Finset.range n).filter p = Finset.Ico lo hi := by
    ext v
    rw [Finset.mem_filter, Finset.mem_range, Finset.mem_Ico]
    constructor
    · rintro ⟨hv, hpv⟩
      exact (hp v hv).1 hpv
    · intro hv
      have hlt : v < n := by omega
      exact ⟨hlt, (hp v hlt).2 hv⟩
  rw [Nat.count_eq_card_filter_range, hfilter, Nat.card_Ico]

namespace Draws

variable {bound x v k : Nat} {weights : List Nat}

/-! ## Numbers from words -/

theorem zone_succ (hpos : 0 < bound) (hle : bound ≤ Word.count64) :
    zone bound + 1 = bound * (Word.count64 / bound) := by
  have hmod : (Word.count64 - bound) % bound = Word.count64 % bound :=
    (Nat.mod_eq_sub_mod hle).symm
  have hdiv := Nat.div_add_mod Word.count64 bound
  have hlt := Nat.mod_lt Word.count64 hpos
  rw [zone, hmod]
  omega

theorem scale?_eq_some_iff (hv : v < Word.count64) (hpos : 0 < bound)
    (hle : bound ≤ Word.count64) :
    scale? bound (.ofNat v) = some x ↔
      x * Word.count64 ≤ v * bound ∧
        v * bound < x * Word.count64 + bound * (Word.count64 / bound) := by
  have hword : (UInt64.ofNat v).toNat = v := UInt64.toNat_ofNat_of_lt' hv
  have hzone := zone_succ hpos hle
  have hdiv := Nat.div_add_mod (v * bound) Word.count64
  have hlt : v * bound % Word.count64 < Word.count64 := Nat.mod_lt _ (by decide)
  have hpart : bound * (Word.count64 / bound) ≤ Word.count64 := Nat.mul_div_le _ _
  simp only [scale?, hword, Option.ite_none_right_eq_some, Option.some.injEq]
  constructor
  · rintro ⟨haccepted, rfl⟩
    rw [Nat.mul_comm (v * bound / Word.count64)]
    omega
  · rintro ⟨hlow, hhigh⟩
    have hx : v * bound / Word.count64 = x :=
      Nat.div_eq_of_lt_le hlow (by rw [Nat.succ_mul]; omega)
    rw [hx, Nat.mul_comm] at hdiv
    exact ⟨by omega, hx⟩

/-- Every number below the bound comes from equally many words. -/
theorem count_scale? (hle : bound ≤ Word.count64) (hx : x < bound) :
    Nat.count (fun v => scale? bound (.ofNat v) = some x) Word.count64 =
      Word.count64 / bound := by
  have hpos : 0 < bound := Nat.lt_of_le_of_lt (Nat.zero_le x) hx
  let first := x * Word.count64 ⌈/⌉ bound
  let size := Word.count64 / bound
  have hfirst : ∀ v, first ≤ v ↔ x * Word.count64 ≤ v * bound := fun v => by
    rw [ceilDiv_le_iff_le_mul hpos, Nat.mul_comm bound]
  have hlast : ∀ v, v < first + size ↔
      v * bound < x * Word.count64 + bound * (Word.count64 / bound) := fun v => by
    rw [Nat.mul_comm bound]
    rcases Nat.lt_or_ge v size with hsmall | hlarge
    · have hmul : v * bound < size * bound := Nat.mul_lt_mul_of_pos_right hsmall hpos
      exact iff_of_true (Nat.lt_add_left _ hsmall) (Nat.lt_add_left _ hmul)
    · obtain ⟨u, rfl⟩ := Nat.exists_eq_add_of_le' hlarge
      rw [Nat.add_mul, Nat.add_lt_add_iff_right, Nat.add_lt_add_iff_right, ← not_le, ← not_le,
        hfirst u]
  have hend : first + size ≤ Word.count64 := by
    have hmul : size * bound ≤ Word.count64 := Nat.div_mul_le_self _ _
    have hrange : (x + 1) * Word.count64 ≤ bound * Word.count64 := Nat.mul_le_mul_right _ hx
    refine Nat.add_le_of_le_sub (Nat.div_le_self _ _) ((hfirst _).2 ?_)
    rw [Nat.sub_mul, Nat.mul_comm Word.count64 bound]
    rw [Nat.succ_mul] at hrange
    omega
  rw [count_between hend fun v hv => ?_, Nat.add_sub_cancel_left]
  rw [scale?_eq_some_iff hv hpos hle, hfirst, hlast]

/-! ## Positions from numbers -/

theorem position_eq_iff (hk : k < weights.length) :
    position weights x = k ↔ (weights.take k).sum ≤ x ∧ x < (weights.take (k + 1)).sum := by
  induction weights generalizing x k with
  | nil => cases hk
  | cons w rest ih =>
      rw [position]
      cases k with
      | zero =>
          split <;> simp_all
      | succ k =>
          rw [List.take_succ_cons, List.take_succ_cons, List.sum_cons, List.sum_cons]
          split
          · omega
          · rw [Nat.succ_inj, ih (Nat.lt_of_succ_lt_succ hk)]
            omega

theorem count_position (hk : k < weights.length) :
    Nat.count (fun x => position weights x = k) weights.sum = weights[k] := by
  have hsucc : (weights.take (k + 1)).sum = (weights.take k).sum + weights[k] := by
    rw [List.take_succ_eq_append_getElem hk, List.sum_append, List.sum_singleton]
  have hend : (weights.take (k + 1)).sum ≤ weights.sum :=
    (List.take_sublist _ _).sum_le_sum fun _ _ => Nat.zero_le _
  rw [count_between hend fun x _ => position_eq_iff hk, hsucc, Nat.add_sub_cancel_left]

end Draws

/-! ## Shards from positions -/

namespace Placement

variable {pool : Pool} {series max : Int} {j : Nat} {s : ShardState}

def choice (pool : Pool) (series max : Int) (x : Nat) : Option Nat :=
  (eligible pool series max)[Draws.position (weights pool series max) x]?

theorem pick_weighted (htotal : (weights pool series max).sum < Word.count64)
    (hsome : 0 < (weights pool series max).sum) (d : Draws) :
    pick .weighted pool series max d =
      (choice pool series max (Draws.below (weights pool series max).sum d.ahead d.used).1,
        (Draws.below (weights pool series max).sum d.ahead d.used).2) := by
  have hdrawn := Draws.weighted_of_lt htotal hsome d
  change ((d.weighted (weights pool series max)).1.bind ((eligible pool series max)[·]?),
    (d.weighted (weights pool series max)).2) = _
  rw [hdrawn]
  rfl

theorem exists_candidate (hs : pool[j]? = some s) (haccepts : s.accepts series max = true) :
    ∃ k : Nat, (eligible pool series max)[k]? = some j ∧
      (weights pool series max)[k]? = some (weight max s) := by
  have hmem : (s, j) ∈ pool.zipIdx.filter (·.1.accepts series max) :=
    List.mem_filter.2 ⟨List.mem_zipIdx_iff_getElem?.2 hs, haccepts⟩
  obtain ⟨k, hk⟩ := List.mem_iff_getElem?.1 hmem
  refine ⟨k, by rw [eligible, List.getElem?_map, hk, Option.map_some], ?_⟩
  rw [weights, filter_accepts, List.map_map, List.getElem?_map, hk, Option.map_some]
  rfl

theorem nodup_eligible (pool : Pool) (series max : Int) : (eligible pool series max).Nodup := by
  have hsub : (eligible pool series max).Sublist (pool.zipIdx.map (·.2)) :=
    List.filter_sublist.map _
  rw [List.zipIdx_map_snd] at hsub
  exact hsub.nodup List.nodup_range'

/-- A shard is picked for as many numbers as its weight says. -/
theorem count_choice (hs : pool[j]? = some s) (haccepts : s.accepts series max = true) :
    Nat.count (fun x => choice pool series max x = some j) (weights pool series max).sum =
      weight max s := by
  obtain ⟨k, hk, hweight⟩ := exists_candidate hs haccepts
  obtain ⟨hlt, hweight⟩ := List.getElem?_eq_some_iff.1 hweight
  have hchoice : ∀ x, choice pool series max x = some j ↔
      Draws.position (weights pool series max) x = k := by
    intro x
    rw [choice, ← hk]
    constructor
    · intro hsame
      have hk' := (List.getElem?_eq_some_iff.1 hk).1
      exact ((List.getElem?_inj hk' (nodup_eligible pool series max)).1 hsame.symm).symm
    · intro hx
      rw [hx]
  simp only [hchoice, Draws.count_position hlt, hweight]

theorem pick_word_iff {v : UInt64} (htotal : (weights pool series max).sum < Word.count64)
    (hsome : 0 < (weights pool series max).sum) :
    pick .weighted pool series max ⟨[v], 0⟩ = (some j, ⟨[], 1⟩) ↔
      ∃ x, Draws.scale? (weights pool series max).sum v = some x ∧
        choice pool series max x = some j := by
  rw [pick_weighted htotal hsome]
  cases hv : Draws.scale? (weights pool series max).sum v with
  | none => simp [Draws.below, hv]
  | some x => simp [Draws.below, hv]

theorem count_word (hs : pool[j]? = some s) (haccepts : s.accepts series max = true)
    (htotal : (weights pool series max).sum < Word.count64) :
    Nat.count (fun v => pick .weighted pool series max ⟨[.ofNat v], 0⟩ = (some j, ⟨[], 1⟩))
        Word.count64 =
      weight max s * (Word.count64 / (weights pool series max).sum) := by
  let total := (weights pool series max).sum
  let words := fun x => (Finset.range Word.count64).filter
    fun v => Draws.scale? total (.ofNat v) = some x
  let numbers := (Finset.range total).filter fun x => choice pool series max x = some j
  have hsome : 0 < total := sum_weights_pos (List.mem_of_getElem? hs) haccepts
  have hunion : ((Finset.range Word.count64).filter fun v =>
      pick .weighted pool series max ⟨[.ofNat v], 0⟩ = (some j, ⟨[], 1⟩)) =
        numbers.biUnion words := by
    ext v
    simp only [numbers, words, Finset.mem_filter, Finset.mem_biUnion, Finset.mem_range,
      pick_word_iff htotal hsome]
    constructor
    · rintro ⟨hv, x, hx, hj⟩
      exact ⟨x, ⟨Draws.scale?_lt hx hsome, hj⟩, hv, hx⟩
    · rintro ⟨x, ⟨-, hj⟩, hv, hx⟩
      exact ⟨hv, x, hx, hj⟩
  have hdisjoint : ∀ x ∈ numbers, ∀ y ∈ numbers, x ≠ y → Disjoint (words x) (words y) := by
    intro x _ y _ hxy
    refine Finset.disjoint_left.2 fun v hvx hvy => hxy ?_
    rw [Finset.mem_filter] at hvx hvy
    exact Option.some.inj (hvx.2.symm.trans hvy.2)
  have hwords : ∀ x ∈ numbers, (words x).card = Word.count64 / total := by
    intro x hx
    rw [← Draws.count_scale? htotal.le (Finset.mem_range.1 (Finset.mem_filter.1 hx).1),
      Nat.count_eq_card_filter_range]
  have hnumbers : numbers.card = weight max s := by
    rw [← count_choice hs haccepts, Nat.count_eq_card_filter_range]
  rw [Nat.count_eq_card_filter_range, hunion, Finset.card_biUnion hdisjoint,
    Finset.sum_const_nat hwords, hnumbers]

/-- As long as the total weight is a 64-bit number, weighted placement finds a shard whenever there
is one with room.  It draws a number below the total, all of which come from equally many words, and
picks each candidate for as many numbers as it has free capacity, or for one if it has none. -/
theorem pick_weighted_fair (pool : Pool) (series max : Int)
    (htotal : (weights pool series max).sum < Word.count64) :
    let total := (weights pool series max).sum
    (∀ d, (pick .weighted pool series max d).1 = none ↔
      (pick .firstFit pool series max d).1 = none) ∧
    (∀ d j, (pick .weighted pool series max d).1 = some j →
      ∃ s, pool[j]? = some s ∧ s.changeable = true ∧ s.hasRoom series max = true) ∧
    (∀ d, 0 < total → ∃ x < total, x = (Draws.below total d.ahead d.used).1 ∧
      (pick .weighted pool series max d).1 = choice pool series max x) ∧
    (∀ x < total, Nat.count (fun v => Draws.scale? total (.ofNat v) = some x) Word.count64 =
      Word.count64 / total) ∧
    ∀ j s, pool[j]? = some s → s.changeable = true → s.hasRoom series max = true →
      Nat.count (fun x => choice pool series max x = some j) total = weight max s ∧
      Nat.count (fun v => pick .weighted pool series max ⟨[.ofNat v], 0⟩ = (some j, ⟨[], 1⟩))
        Word.count64 = weight max s * (Word.count64 / total) ∧
      (Word.Fits (max - s.head) → weight max s = (Max.max (max - s.head) 1).toNat) := by
  intro total
  refine ⟨fun d => ?_, fun d j hpick => ?_, fun d hsome => ?_, fun x hx => ?_,
    fun j s hs hchangeable hroom => ?_⟩
  · have hdrawn : Weighs .weighted pool series max := fun _ => htotal
    have hfirst : Weighs .firstFit pool series max := fun hp => nomatch hp
    rw [pick_eq_none_iff hdrawn, pick_eq_none_iff hfirst]
  · obtain ⟨s, hs, haccepts⟩ := accepts_of_pick (Prod.ext hpick rfl)
    rw [ShardState.accepts, Bool.and_eq_true] at haccepts
    exact ⟨s, hs, haccepts⟩
  · exact ⟨_, Draws.below_lt hsome _ _, rfl, by rw [pick_weighted htotal hsome]⟩
  · exact Draws.count_scale? (Nat.le_of_lt htotal) hx
  · have haccepts : s.accepts series max = true := by
      rw [ShardState.accepts, hchangeable, hroom]
      rfl
    refine ⟨count_choice hs haccepts, count_word hs haccepts htotal, fun hfits => ?_⟩
    rw [weight, Word.sub_eq hfits]

def gapped : Pool :=
  [{ id := "s0", changeable := true, runtime := { headSeries := 90 } },
   { id := "s1", changeable := false },
   { id := "s2", changeable := true, runtime := { headSeries := 10 } },
   { id := "s3", changeable := true, runtime := { headSeries := 99 } }]

theorem pick_weighted_fair_of_gapped :
    (weights gapped 1 100).sum < Word.count64 ∧
      (∀ d, ∃ j s, (pick .weighted gapped 1 100 d).1 = some j ∧ gapped[j]? = some s ∧
        s.changeable = true ∧ s.hasRoom 1 100 = true) ∧
      Nat.count (fun x => choice gapped 1 100 x = some 0) 100 = 10 ∧
      Nat.count (fun x => choice gapped 1 100 x = some 2) 100 = 90 ∧
      Nat.count (fun v => pick .weighted gapped 1 100 ⟨[.ofNat v], 0⟩ = (some 2, ⟨[], 1⟩))
        Word.count64 = 90 * (Word.count64 / 100) := by
  have htotal : (weights gapped 1 100).sum < Word.count64 := by decide
  obtain ⟨hnone, hroom, -, -, hshares⟩ := pick_weighted_fair gapped 1 100 htotal
  have hfirst : (pick .firstFit gapped 1 100 { ahead := [] }).1 ≠ none := by decide
  obtain ⟨hnumbers, hwords, hweight⟩ := hshares 2 _ rfl rfl rfl
  rw [hweight (by decide)] at hnumbers hwords
  refine ⟨htotal, fun d => ?_, (hshares 0 _ rfl rfl rfl).1, hnumbers, hwords⟩
  obtain ⟨j, hj⟩ := Option.ne_none_iff_exists'.1 (mt (hnone d).1 hfirst)
  obtain ⟨s, hs⟩ := hroom d j hj
  exact ⟨j, s, hj, hs⟩

end Placement

end ScrapeFleet
