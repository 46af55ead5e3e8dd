import ScrapeFleet.Plan
import ScrapeFleet.Proofs.Plan.Cleanup
import ScrapeFleet.Proofs.Plan.Shedding
import ScrapeFleet.Proofs.Plan.Placement
import ScrapeFleet.Proofs.Plan.Shrinking

/-!
# A planning cycle as steps

The passes of a cycle follow one another on one pool.  After cleaning, they make
only moves and placements, and writing the assignments changes no copy.
-/

namespace ScrapeFleet

open Planning Scaling

/-! ## Assignments -/

namespace Assignment

theorem getElem?_build (active : TargetsByJob) (pool : Pool) (i : Nat) :
    (build active pool)[i]? = pool[i]?.map fun s =>
      if s.changeable then { s with assignment := ofScraping (index active) s.scraping } else s := by
  simp [build]

theorem length_build (active : TargetsByJob) (pool : Pool) :
    (build active pool).length = pool.length := by
  simp [build]

theorem copies_build (active : TargetsByJob) (pool : Pool) (h : Fingerprint) :
    (build active pool).copies h = pool.copies h := by
  funext i
  rw [Pool.copies, getElem?_build, Pool.copies]
  cases pool[i]? with
  | none => rfl
  | some s => cases hc : s.changeable <;> simp [ShardState.copy?, hc]

theorem countCopies_build (active : TargetsByJob) (pool : Pool) (p : Status → Bool)
    (h : Fingerprint) : (build active pool).countCopies p h = pool.countCopies p h := by
  rw [Pool.countCopies_eq_card, Pool.countCopies_eq_card, copies_build, length_build]

end Assignment

/-! ## The size of the pool -/

namespace Planner

theorem resize_moves (p : Policy) (now : Nat) (needSpace : Int) (pool : Pool) :
    Moves p.maxSeries pool (resize p now needSpace pool).1 := by
  unfold resize
  split
  · exact walk_moves pool.length ⟨pool, pool.length, 0⟩
  · split <;> exact .refl

theorem resize_length (p : Policy) (now : Nat) (needSpace : Int) (pool : Pool) :
    (resize p now needSpace pool).1.length = pool.length :=
  ((resize_moves p now needSpace pool).steps []).length_eq

theorem resize_le (p : Policy) (now : Nat) (needSpace : Int) (pool : Pool) :
    (resize p now needSpace pool).2.1 ≤
      Max.max ((resize p now needSpace pool).1.length : Int) p.maxShards := by
  rw [resize_length]
  unfold resize
  split
  · have hle := walk_desired_le p.maxSeries p.maxIdle.secs now pool.length ⟨pool, pool.length, 0⟩
    refine le_trans ?_ (le_max_left _ _)
    exact Int.ofNat_le.2 hle
  · split
    · exact le_trans (Int.min_le_right _ _) (le_max_right _ _)
    · exact le_max_left _ _

/-- Apart from the first shard, only shards that own no target are given up, unless there are
more shards than allowed. -/
theorem resize_ownsNothing {p : Policy} {now : Nat} {needSpace : Int} {pool : Pool}
    (hlength : ((resize p now needSpace pool).1.length : Int) ≤ Max.max 1 p.maxShards) {k : Nat}
    {s : ShardState} (hpos : 1 ≤ k) (hk : (resize p now needSpace pool).2.1 ≤ k)
    (hs : (resize p now needSpace pool).1[k]? = some s) : OwnsNothing s := by
  rw [resize_length] at hlength
  unfold resize at hk hs
  split at hk
  · rename_i hshrink
    rw [if_pos hshrink] at hs
    exact shrink_ownsNothing _ _ _ _ k s (by simpa using hk) hs
  · rename_i hshrink
    rw [if_neg hshrink] at hs
    have hlt : k < pool.length := by
      split at hs <;> exact (List.getElem?_eq_some_iff.1 hs).1
    split at hk
    · simp only [grow] at hk
      omega
    · simp only at hk
      omega

/-! ## The whole cycle -/

variable {σ : Type}

/-- The pool of a cycle before the assignments are written. -/
def planned (lookup : Lookup σ) (now : Nat) (active : TargetsByJob) (planner : Planner)
    (pool : Pool) (explored : σ) : Pool × Int × Nat :=
  let shed := Shedding.run planner.policy.maxSeries (Cleanup.run active.hashes pool).1
  let placed := (placement planner.policy).run lookup planner.known planner.policy.maxSeries
    active shed.pool planner.draws explored
  resize planner.policy now (Word.add shed.needSpace placed.needSpace) placed.pool

variable (lookup : Lookup σ) (now : Nat) (active : TargetsByJob) (planner : Planner)
  (pool : Pool) (explored : σ)

theorem plan_pool :
    (planner.plan lookup now active pool explored).pool =
      Assignment.build active (planner.planned lookup now active pool explored).1 := rfl

theorem planned_steps :
    Steps planner.policy.maxSeries active.hashes (Cleanup.run active.hashes pool).1
      (planner.planned lookup now active pool explored).1 :=
  ((Shedding.run_steps _ _ _).trans (Placement.run_steps _ _ _ _ _ _ _ _)).trans
    ((resize_moves _ _ _ _).steps _)

theorem cycle_steps :
    Steps planner.policy.maxSeries active.hashes pool
      (planner.planned lookup now active pool explored).1 :=
  (Cleanup.run_steps _ _ _).trans (planned_steps lookup now active planner pool explored)

/-- The pool of a cycle before shards are drained. -/
def filled : Pool :=
  let p := planner.policy
  ((placement p).run lookup planner.known p.maxSeries active
    (Shedding.run p.maxSeries (Cleanup.run active.hashes pool).1).pool planner.draws explored).pool

theorem filled_steps :
    Steps planner.policy.maxSeries active.hashes pool
      (planner.filled lookup active pool explored) :=
  ((Cleanup.run_steps _ _ _).trans (Shedding.run_steps _ _ _)).trans
    (Placement.run_steps _ _ _ _ _ _ _ _)

theorem filled_moves :
    Moves planner.policy.maxSeries (planner.filled lookup active pool explored)
      (planner.planned lookup now active pool explored).1 :=
  resize_moves _ _ _ _

theorem planned_length :
    (planner.planned lookup now active pool explored).1.length = pool.length :=
  (cycle_steps lookup now active planner pool explored).length_eq

theorem mem_active_of_planned {h : Fingerprint} {i : Nat} {st : Status}
    (hst : (planner.planned lookup now active pool explored).1.copies h i = some st) :
    h ∈ active.hashes := by
  by_contra hinactive
  have hnone := (planned_steps lookup now active planner pool explored).copies_eq_none hinactive
    (fun k => Option.eq_none_iff_forall_ne_some.2 fun st hst =>
      hinactive (Cleanup.mem_active_of_run hst)) i
  rw [hnone] at hst
  cases hst

/-- A cycle assigns to a shard that may be changed what it is to scrape, all of which is active. -/
theorem assignment_of_plan {i : Nat} {s : ShardState}
    (hs : (planner.plan lookup now active pool explored).pool[i]? = some s)
    (hc : s.changeable = true) :
    s.assignment = Assignment.ofScraping (Assignment.index active) s.scraping ∧
      ∀ h st, s.scraping.get? h = some st → h ∈ active.hashes := by
  rw [plan_pool, Assignment.getElem?_build] at hs
  obtain ⟨t, ht, rfl⟩ := Option.map_eq_some_iff.1 hs
  cases htc : t.changeable with
  | true =>
      rw [if_pos rfl]
      refine ⟨rfl, fun h st hst => ?_⟩
      rw [← Pool.copies_eq_get? ht htc] at hst
      exact mem_active_of_planned lookup now active planner pool explored hst
  | false =>
      rw [htc, if_neg Bool.false_ne_true, htc] at hc
      cases hc

theorem changeable_plan (i : Nat) :
    (planner.plan lookup now active pool explored).pool[i]?.map (·.changeable) =
      pool[i]?.map (·.changeable) := by
  rw [plan_pool, Assignment.getElem?_build, Option.map_map,
    ← (cycle_steps lookup now active planner pool explored).changeable_eq i]
  congr 1
  funext s
  simp only [Function.comp_apply]
  split <;> rfl

theorem getElem?_plan_iff_of_frozen {i : Nat} {s : ShardState} (hc : s.changeable = false) :
    (planner.plan lookup now active pool explored).pool[i]? = some s ↔ pool[i]? = some s := by
  have hkeeps : ∀ t, pool[i]? = some t → t.changeable = false →
      (planner.plan lookup now active pool explored).pool[i]? = some t := by
    intro t ht htc
    have hplanned := (cycle_steps lookup now active planner pool explored).getElem?_of_frozen ht htc
    rw [plan_pool, Assignment.getElem?_build, hplanned]
    simp [htc]
  refine ⟨fun hs => ?_, fun hs => hkeeps s hs hc⟩
  have hsame := changeable_plan lookup now active planner pool explored i
  rw [hs, Option.map_some, hc] at hsame
  obtain ⟨t, ht, htc⟩ := Option.map_eq_some_iff.1 hsame.symm
  rw [← hs, hkeeps t ht htc, ht]

theorem has_eq_false_of_given_up {k : Nat} {s : ShardState}
    (hlength : (pool.length : Int) ≤ Max.max 1 planner.policy.maxShards) (hpos : 1 ≤ k)
    (hk : (planner.plan lookup now active pool explored).desiredShards ≤ k)
    (hs : (planner.plan lookup now active pool explored).pool[k]? = some s) (h : Fingerprint) :
    s.has Status.isNormal h = false := by
  rw [ShardState.has, ← Pool.copies_eq_copy? hs, plan_pool, Assignment.copies_build]
  cases hst : (planner.planned lookup now active pool explored).1.copies h k with
  | none => rfl
  | some st =>
      obtain ⟨t, ht, -, hget⟩ := Pool.copies_eq_some_iff.1 hst
      have hplanned := planned_length lookup now active planner pool explored
      exact (resize_ownsNothing (hplanned.symm ▸ hlength) hpos hk ht).2 h st hget

theorem desiredShards_le :
    (planner.plan lookup now active pool explored).desiredShards ≤
      Max.max (pool.length : Int) planner.policy.maxShards := by
  have hplanned := planned_length lookup now active planner pool explored
  rw [← hplanned]
  exact resize_le planner.policy now _ _

theorem plan_length :
    (planner.plan lookup now active pool explored).pool.length = pool.length := by
  rw [plan_pool, Assignment.length_build, planned_length]

end Planner

end ScrapeFleet
