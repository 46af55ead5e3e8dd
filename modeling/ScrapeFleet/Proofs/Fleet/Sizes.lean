import Mathlib.Algebra.Order.Floor.Ring
import Mathlib.Data.Rat.Floor
import Mathlib.Tactic.Linarith
import ScrapeFleet.Coordinator
import ScrapeFleet.Proofs.Fleet.Collecting
import ScrapeFleet.Proofs.Fleet.Soundness
import ScrapeFleet.Proofs.Plan.Resizing

/-!
# The size of the pool over whole runs

A plan that asks for more shards takes the maximum over the pool that it sees and the
minimum with the number of shards allowed, so the pool would shrink if it were larger
than allowed.  It never is: a fleet starts with one shard, and neither a plan nor the
fleet leaves the bounds from there on.
-/

namespace ScrapeFleet

/-! ## What a plan asks for -/

namespace Scaling

theorem ediv_eq_ceil {max : Int} (hmax : 0 < max) (x : Int) :
    (x + max - 1) / max = ⌈(x : ℚ) / max⌉ := by
  have hmaxRat : (0 : ℚ) < max := by exact_mod_cast hmax
  rw [eq_comm, Int.ceil_eq_iff]
  have hsplit := Int.mul_ediv_add_emod (x + max - 1) max
  have hlt := Int.emod_lt_of_pos (x + max - 1) hmax
  have hnonneg := Int.emod_nonneg (x + max - 1) hmax.ne'
  generalize (x + max - 1) / max = q at hsplit ⊢
  constructor
  · rw [lt_div_iff₀ hmaxRat]
    have hbelow : (q - 1) * max < x := by linarith [mul_comm max q, sub_one_mul q max]
    exact_mod_cast hbelow
  · rw [div_le_iff₀ hmaxRat]
    have habove : x ≤ q * max := by linarith [mul_comm max q]
    exact_mod_cast habove

theorem grow_eq_ceil {changeable total : Nat} {needSpace max maxShards : Int} (hmax : 0 < max)
    (hneed : 0 < needSpace) (hsum : Word.Fits (needSpace + max - 1))
    (hcount : Word.Fits (changeable + ⌈(needSpace : ℚ) / max⌉)) :
    grow changeable total needSpace max maxShards =
      min maxShards (Max.max (total : Int) (changeable + ⌈(needSpace : ℚ) / max⌉)) := by
  rw [← ediv_eq_ceil hmax] at hcount ⊢
  rw [grow_eq_ediv hmax hneed hsum hcount, min_comm, max_comm]

end Scaling

namespace Planner

theorem resize_eq_grow {p : Policy} {needSpace : Int} (hneed : 0 < needSpace) (now : Nat)
    (pool : Pool) :
    (resize p now needSpace pool).2.1 =
      Scaling.grow pool.changeableCount pool.length needSpace p.maxSeries p.maxShards := by
  unfold resize
  rw [if_neg (by simp [hneed.ne']), if_pos hneed]

theorem resize_le_length {p : Policy} {needSpace : Int} (hneed : needSpace ≤ 0) (now : Nat)
    (pool : Pool) : (resize p now needSpace pool).2.1 ≤ pool.length := by
  unfold resize
  split
  · exact Int.ofNat_le.2 (Scaling.walk_desired_le p.maxSeries p.maxIdle.secs now pool.length
      ⟨pool, pool.length, 0⟩)
  · rw [if_neg (not_lt.2 hneed)]

variable {σ : Type} (lookup : Lookup σ) (now : Nat) (active : TargetsByJob) (planner : Planner)
  (pool : Pool) (explored : σ)

theorem plan_grows (hneed : 0 < (planner.plan lookup now active pool explored).needSpace) :
    (planner.plan lookup now active pool explored).desiredShards =
      Scaling.grow pool.changeableCount pool.length
        (planner.plan lookup now active pool explored).needSpace planner.policy.maxSeries
        planner.policy.maxShards := by
  have hsteps := filled_steps lookup active planner pool explored
  rw [← hsteps.length_eq, ← hsteps.changeableCount_eq]
  exact resize_eq_grow hneed now (planner.filled lookup active pool explored)

theorem plan_shrinks (hneed : (planner.plan lookup now active pool explored).needSpace ≤ 0) :
    (planner.plan lookup now active pool explored).desiredShards ≤ pool.length := by
  have hsteps := filled_steps lookup active planner pool explored
  rw [← hsteps.length_eq]
  exact resize_le_length hneed now (planner.filled lookup active pool explored)

end Planner

theorem Config.Coordinator.bounds_of_policy {options : Config.Coordinator} {policy : Policy}
    (hvalid : options.policy = .ok policy) : 0 < policy.maxSeries ∧ 1 ≤ policy.maxShards := by
  rw [Config.Coordinator.policy] at hvalid
  split at hvalid
  · cases hvalid
  split at hvalid
  · cases hvalid
  rename_i hseries hshards
  cases hidle : duration "coordinator.max_idle" options.maxIdle with
  | error fault =>
      rw [hidle] at hvalid
      cases hvalid
  | ok maxIdle =>
      cases hinterval : duration "coordinator.reconcile_interval" options.reconcileInterval with
      | error fault =>
          rw [hidle, hinterval] at hvalid
          cases hvalid
      | ok interval =>
          simp only [hidle, hinterval, bind, Except.bind] at hvalid
          split at hvalid
          · cases hvalid
          · obtain rfl := Except.ok.inj hvalid
            exact ⟨not_le.1 hseries, not_lt.1 hshards⟩

/-! ## Runs of a fleet -/

namespace Fleet

variable {ρ : Type} {f f' : Fleet ρ} {policy : Policy} {n : Nat}

/-- Anything may happen to the shards, but which of them are in the pool and ready stays. -/
structure Kept (f f' : Fleet ρ) : Prop where
  active : f'.active = f.active
  ready : f'.shards.map (·.ready) = f.shards.map (·.ready)

/-- The states of a fleet of `n` shards whose size follows plans for its pool under one policy. -/
inductive Run (policy : Policy) (n : Nat) : Fleet ρ → Prop
  | start {shards : List (Shard ρ)} {f : Fleet ρ} :
      shards.length = n → (∀ s ∈ shards, s.ready = true) → ofShards shards = .ok f → Run policy n f
  | keep {f f' : Fleet ρ} : Run policy n f → Kept f f' → Run policy n f'
  | rescale {f : Fleet ρ} {planner : Planner} {pool : Pool} {σ : Type} (lookup : Lookup σ)
      (now : Nat) (active : TargetsByJob) (explored : σ) :
      Run policy n f → planner.policy = policy → pool.length = f.pool.length →
      Run policy n (f.rescale (planner.plan lookup now active pool explored).desiredShards)

structure Sized (policy : Policy) (n : Nat) (f : Fleet ρ) : Prop where
  length_eq : f.shards.length = n
  one_le : 1 ≤ f.active
  active_le : f.active ≤ n
  active_le_max : (f.active : Int) ≤ policy.maxShards
  ready_iff : ∀ i s, f.shards[i]? = some s → (s.ready = true ↔ i < f.active)

theorem Sized.length_pool (hf : f.Sized policy n) : f.pool.length = f.active := by
  have hlength := hf.length_eq
  have hle := hf.active_le
  rw [pool, List.length_take]
  omega

theorem Sized.start {shards : List (Shard ρ)} (hmax : 1 ≤ policy.maxShards)
    (hready : ∀ s ∈ shards, s.ready = true) (hf : ofShards shards = .ok f) :
    f.Sized policy shards.length := by
  cases shards with
  | nil => cases hf
  | cons first rest =>
      obtain rfl := Except.ok.inj hf
      refine ⟨by simp, le_rfl, by simp, hmax, fun i s hs => ?_⟩
      cases i with
      | zero =>
          obtain rfl := Option.some.inj hs
          simp [hready first List.mem_cons_self]
      | succ i =>
          rw [List.getElem?_cons_succ, List.getElem?_map] at hs
          obtain ⟨t, -, rfl⟩ := Option.map_eq_some_iff.1 hs
          simp [Shard.setReady]

theorem Sized.keep (hf : f.Sized policy n) (hkept : f.Kept f') : f'.Sized policy n := by
  obtain ⟨hactive, hready⟩ := hkept
  refine ⟨?_, hactive ▸ hf.one_le, hactive ▸ hf.active_le, hactive ▸ hf.active_le_max, ?_⟩
  · have hlength := congrArg List.length hready
    rw [List.length_map, List.length_map] at hlength
    exact hlength.trans hf.length_eq
  · intro i s hs
    have hsame := congrArg (·[i]?) hready
    simp only [List.getElem?_map, hs, Option.map_some] at hsame
    obtain ⟨t, ht, hreadyEq⟩ := Option.map_eq_some_iff.1 hsame.symm
    rw [← hreadyEq, hactive]
    exact hf.ready_iff i t ht

theorem Sized.ready_rescale (hf : f.Sized policy n) (desired : Int) (i : Nat) (s : Shard ρ)
    (hs : (f.rescale desired).shards[i]? = some s) :
    s.ready = true ↔ i < (f.rescale desired).active := by
  simp only [Fleet.rescale] at hs ⊢
  split at hs
  · rename_i hsame
    rw [if_pos hsame]
    exact hf.ready_iff i s hs
  · rename_i hchanged
    rw [if_neg hchanged]
    rw [List.getElem?_mapIdx] at hs
    obtain ⟨t, -, rfl⟩ := Option.map_eq_some_iff.1 hs
    exact decide_eq_true_iff

theorem Sized.rescale (hf : f.Sized policy n) {desired : Int}
    (hle : desired ≤ Max.max (f.active : Int) policy.maxShards) :
    (f.rescale desired).Sized policy n := by
  have hlength := f.length_rescale desired
  have hsize : (f.rescale desired).active = Max.max 1 (min desired.toNat f.shards.length) :=
    f.rescale_active desired
  obtain ⟨hlen, hone, hactive, hmax, -⟩ := id hf
  -- The old pool is within its bounds, so the maximum over it is not larger than allowed.
  refine ⟨hlength.trans hlen, ?_, ?_, ?_, hf.ready_rescale desired⟩
  · omega
  · omega
  · omega

theorem Run.sized (run : Run policy n f) (hmax : 1 ≤ policy.maxShards) : f.Sized policy n := by
  induction run with
  | start hlength hready hf =>
      subst hlength
      exact .start hmax hready hf
  | keep _ hkept ih => exact ih.keep hkept
  | rescale lookup now active explored _ hpolicy hlength ih =>
      subst hpolicy
      refine ih.rescale ?_
      rw [← ih.length_pool, ← hlength]
      exact Planner.desiredShards_le lookup now active _ _ explored

/-- The size of the pool stays within its bounds, and the shards that are ready are those in it.
Unmet demand asks for the shards that can take it, unless their number comes from a sum that wraps
around, and never for fewer than there are; without unmet demand the pool does not grow. -/
theorem Run.pool_size {options : Config.Coordinator} (hvalid : options.policy = .ok policy)
    (run : Run policy n f) :
    f.shards.length = n ∧ 1 ≤ f.pool.length ∧
      (f.pool.length : Int) ≤ min (n : Int) policy.maxShards ∧
      (∀ i s, f.shards[i]? = some s → (s.ready = true ↔ i < f.pool.length)) ∧
      ∀ {σ : Type} (lookup : Lookup σ) (now : Nat) (active : TargetsByJob) (planner : Planner)
        (pool : Pool) (explored : σ), planner.policy = policy → pool.length = f.pool.length →
        let out := planner.plan lookup now active pool explored
        let next := f.rescale out.desiredShards
        (0 < out.needSpace →
          (Word.Fits (out.needSpace + policy.maxSeries - 1) →
              Word.Fits (pool.changeableCount + ⌈(out.needSpace : ℚ) / policy.maxSeries⌉) →
              out.desiredShards = min policy.maxShards (Max.max (pool.length : Int)
                (pool.changeableCount + ⌈(out.needSpace : ℚ) / policy.maxSeries⌉))) ∧
            f.pool.length ≤ next.pool.length) ∧
          (out.needSpace ≤ 0 → next.pool.length ≤ f.pool.length) := by
  obtain ⟨hmaxSeries, hmaxShards⟩ := Config.Coordinator.bounds_of_policy hvalid
  have hf := run.sized hmaxShards
  have hpool := hf.length_pool
  obtain ⟨hlength, hone, hactive, hmax, hready⟩ := id hf
  refine ⟨hlength, hpool ▸ hone, ?_, hpool ▸ hready, ?_⟩
  · rw [hpool]
    omega
  · intro σ lookup now active planner pool explored hpolicy hcurrent out next
    have hnext : next.pool.length = Max.max 1 (min out.desiredShards.toNat f.shards.length) := by
      have hsized := (run.rescale lookup now active explored hpolicy hcurrent).sized hmaxShards
      exact hsized.length_pool.trans (f.rescale_active _)
    subst hpolicy
    refine ⟨fun hneed => ?_, fun hneed => ?_⟩
    · have hdesired : out.desiredShards = _ :=
        Planner.plan_grows lookup now active planner pool explored hneed
      refine ⟨fun hsum hcount => ?_, ?_⟩
      · rw [hdesired, Scaling.grow_eq_ceil hmaxSeries hneed hsum hcount]
      · have hle : min (pool.length : Int) planner.policy.maxShards ≤ out.desiredShards :=
          hdesired ▸ Scaling.min_le_grow _ _ _ _ _
        omega
    · have hdesired : out.desiredShards ≤ (pool.length : Int) :=
        Planner.plan_shrinks lookup now active planner pool explored hneed
      omega

theorem Run.pool_size_of_three :
    let options : Config.Coordinator := { maxSeriesPerShard := 100, maxShardCount := 2 }
    let policy : Policy := ⟨100, 2, .ofSecs 0, .ofSecs 15⟩
    let shards : List (Shard InMemory) :=
      ["a:80", "b:80", "c:80"].map fun address => .ofEndpoints address [{ address }]
    let fleet : Fleet InMemory :=
      ⟨shards.mapIdx fun i s => s.setReady (i < 1), 1⟩
    let pool : Pool := [{ id := "a:80", changeable := true, runtime := { headSeries := 90 } }]
    let active : TargetsByJob := .ofList [("node", [{ hash := 1, job := "node", url := "" }])]
    let lookup : Lookup Unit :=
      ⟨fun _ _ e => (some { health := .good, series := 30 }, e), fun _ _ _ => none⟩
    let out := Planner.plan lookup 0 active { policy, draws := { ahead := [] } } pool ()
    (options.policy = .ok policy ∧ Run policy 3 fleet ∧ out.needSpace = 30) ∧
      out.desiredShards = 2 ∧ 1 ≤ (fleet.rescale out.desiredShards).pool.length := by
  intro options policy shards fleet pool active lookup out
  have hvalid : options.policy = .ok policy := by decide +kernel
  have hready : ∀ s ∈ shards, s.ready = true := by
    intro s hs
    obtain ⟨address, -, rfl⟩ := List.mem_map.1 hs
    rfl
  have run : Run policy 3 fleet := .start rfl hready rfl
  have hneed : out.needSpace = 30 := by decide +kernel
  obtain ⟨-, -, -, -, hplans⟩ := run.pool_size hvalid
  obtain ⟨hgrows, -⟩ := hplans lookup 0 active { policy, draws := { ahead := [] } } pool () rfl rfl
  have hceil : ⌈((30 : Int) : ℚ) / (policy.maxSeries : ℚ)⌉ = 1 := by
    norm_num [policy, Int.ceil_eq_iff]
  rw [show Planner.Outcome.needSpace _ = (30 : Int) from hneed, hceil] at hgrows
  obtain ⟨hdesired, hkept⟩ := hgrows (by decide)
  exact ⟨⟨hvalid, run, hneed⟩, hdesired (by decide) (by decide), hkept⟩

theorem Kept.length_pool (hkept : f.Kept f') : f'.pool.length = f.pool.length := by
  have hlength := congrArg List.length hkept.ready
  rw [List.length_map, List.length_map] at hlength
  rw [pool, pool, List.length_take, List.length_take, hkept.active, hlength]

theorem kept_update {shards : List (Shard ρ)}
    (hready : shards.map (·.ready) = f.pool.map (·.ready)) : f.Kept (f.update shards) where
  active := rfl
  ready := by
    rw [update, List.map_append, hready, pool, ← List.map_append, List.take_append_drop]

end Fleet

/-! ## Cycles of a coordinator -/

section

variable {ρ : Type} [Endpoint ρ]

theorem Coordinator.ready_sendAssignments {shards : List (Shard ρ)} {pool : Pool}
    (hlength : pool.length = shards.length) :
    (shards.zipWith sendAssignment pool).map (·.ready) = shards.map (·.ready) := by
  induction shards generalizing pool with
  | nil => rfl
  | cons s shards ih =>
      cases pool with
      | nil => cases hlength
      | cons planned pool =>
          have hs : (sendAssignment s planned).ready = s.ready := by
            unfold sendAssignment
            split
            · exact s.ready_after _
            · rfl
          rw [List.zipWith_cons_cons, List.map_cons, List.map_cons, hs,
            ih (Nat.succ.inj hlength)]

theorem Coordinator.cycle_run {c : Coordinator ρ} {n : Nat}
    (run : Fleet.Run c.planner.policy n c.fleet) (now : Nat) :
    Fleet.Run (c.cycle now).2.planner.policy n (c.cycle now).2.fleet := by
  unfold cycle
  split
  · exact run
  let collected := Collection.collect c.config c.fleet.pool
  let explorer := c.explorer.updateTargets c.targets.active
  let plan := c.planner.plan Explorer.lookup now c.targets.active collected.1 explorer
  have hcollected : collected.2.map (·.ready) = c.fleet.pool.map (·.ready) := by
    simp only [collected, Collection.collect, List.map_map]
    exact List.map_congr_left fun s _ => Collection.ready_collectShard c.config s
  have hlength : plan.pool.length = collected.2.length := by
    refine (Planner.plan_length Explorer.lookup now c.targets.active c.planner collected.1
      explorer).trans ?_
    simp [collected, Collection.collect]
  have hkept : c.fleet.Kept (c.fleet.update (collected.2.zipWith sendAssignment plan.pool)) :=
    Fleet.kept_update ((ready_sendAssignments hlength).trans hcollected)
  have hcurrent : collected.1.length =
      (c.fleet.update (collected.2.zipWith sendAssignment plan.pool)).pool.length := by
    rw [hkept.length_pool]
    simp [collected, Collection.collect]
  exact .rescale Explorer.lookup now c.targets.active explorer (run.keep hkept) rfl hcurrent

end

end ScrapeFleet
