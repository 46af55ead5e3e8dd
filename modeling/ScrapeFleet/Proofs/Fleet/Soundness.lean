import ScrapeFleet.Proofs.Fleet.Shards
import ScrapeFleet.Proofs.Plan.Ownership

/-!
# A cycle over a fleet without failures

In a cycle the pool that planning works on and the shards of the fleet stay side
by side: planning sees the shards as they are, and after the assignments the
shards are what was planned.  A fleet is sound if each target has at most one
owner in it and the shards outside its pool own nothing.  A cycle keeps it so,
and what is active does not lose its owner.
-/

namespace ScrapeFleet

/-! ## Shards and pools side by side -/

def Shard.AllShow (shards : List (Shard InMemory)) (pool : Pool) : Prop :=
  List.Forall₂ (fun s info => s.Shows info ∧ s.ready = true) shards pool

theorem Shard.AllShow.getElem? {shards : List (Shard InMemory)} {pool : Pool}
    (hshow : AllShow shards pool) {i : Nat} {s : Shard InMemory} (hs : shards[i]? = some s) :
    ∃ info, pool[i]? = some info ∧ s.Shows info ∧ s.ready = true := by
  obtain ⟨hi, rfl⟩ := List.getElem?_eq_some_iff.1 hs
  have hi' : i < pool.length := hshow.length_eq ▸ hi
  exact ⟨pool[i], List.getElem?_eq_getElem hi', hshow.get hi hi'⟩

theorem Shard.AllShow.countP_owns {shards : List (Shard InMemory)} {pool : Pool}
    (hshow : AllShow shards pool) (h : Fingerprint) :
    shards.countP (·.owns h) = pool.owners h := by
  induction hshow with
  | nil => rfl
  | cons hs _ ih =>
      rw [Pool.owners, Pool.countCopies] at ih ⊢
      rw [List.countP_cons, List.countP_cons, ih, hs.1.owns_eq]

theorem Collection.collect_show {expected : Config.Loaded} {shards : List (Shard InMemory)}
    (hhash : expected.hash = Sha256.hexDigest expected.raw)
    (hs : ∀ s ∈ shards, s.ready = true ∧ ∃ states, s.Holds states) :
    Shard.AllShow (collect expected shards).2 (collect expected shards).1 ∧
      ∀ h, (collect expected shards).1.owners h = shards.countP (·.owns h) := by
  have hread : ∀ s ∈ shards, _ := fun s hmem =>
    collectShard_shows hhash (hs s hmem).1 (hs s hmem).2.choose_spec
  constructor
  · simp only [Shard.AllShow, collect, List.map_map, List.forall₂_map_left_iff,
      List.forall₂_map_right_iff, Function.comp_apply]
    exact List.forall₂_same.2 fun s hmem => ⟨(hread s hmem).1, (hread s hmem).2.1⟩
  · intro h
    simp only [Pool.owners, Pool.countCopies, collect, List.map_map, List.countP_map]
    refine List.countP_congr fun s hmem => ?_
    rw [Function.comp_apply, Function.comp_apply, (hread s hmem).2.2 h]

/-- A plan for a shard: whether it may be changed is as before, and the assignment lists what
it is to scrape. -/
def Assigns (info planned : ShardState) : Prop :=
  planned.changeable = info.changeable ∧
    (planned.changeable = true → planned.assignment.Lists planned.scraping.states)

theorem Coordinator.sendAssignments_show {shards : List (Shard InMemory)} {pool planned : Pool}
    (hshow : Shard.AllShow shards pool) (hplanned : List.Forall₂ Assigns pool planned) :
    Shard.AllShow (shards.zipWith sendAssignment planned) planned := by
  induction hshow generalizing planned with
  | nil =>
      cases hplanned
      exact .nil
  | cons hs _ ih =>
      cases hplanned with
      | cons hassigns hrest =>
          obtain ⟨hshows, hready⟩ := sendAssignment_shows hs.1 hassigns.1 hassigns.2
          exact .cons ⟨hshows, hready.trans hs.2⟩ (ih hrest)

section

variable {σ : Type} (lookup : Lookup σ) (now : Nat) (active : TargetsByJob) (planner : Planner)
  (pool : Pool) (explored : σ)

theorem Planner.lists_of_plan {i : Nat} {t : ShardState}
    (ht : (planner.plan lookup now active pool explored).pool[i]? = some t)
    (hc : t.changeable = true) : t.assignment.Lists t.scraping.states := by
  obtain ⟨hassignment, hactive⟩ := assignment_of_plan lookup now active planner pool explored ht hc
  rw [hassignment]
  exact Assignment.lists_ofScraping hactive

theorem Planner.plan_assigns :
    List.Forall₂ Assigns pool (planner.plan lookup now active pool explored).pool := by
  refine List.forall₂_iff_get.2
    ⟨(plan_length lookup now active planner pool explored).symm, fun i hi hi' => ?_⟩
  have hchangeable := changeable_plan lookup now active planner pool explored i
  rw [List.getElem?_eq_getElem hi, List.getElem?_eq_getElem hi'] at hchangeable
  exact ⟨Option.some.inj hchangeable,
    lists_of_plan lookup now active planner pool explored (List.getElem?_eq_getElem hi')⟩

end

/-! ## Sound fleets -/

namespace Fleet

section

variable {ρ : Type} (f : Fleet ρ) (desired : Int)

theorem rescale_active : (f.rescale desired).active = f.size desired := by
  simp only [rescale]
  split
  · exact Eq.symm ‹_›
  · rfl

theorem map_rescale {β : Type} {F : Shard ρ → β} (hF : ∀ s b, F (s.setReady b) = F s) :
    (f.rescale desired).shards.map F = f.shards.map F := by
  simp only [rescale]
  split
  · rfl
  · refine List.ext_getElem? fun i => ?_
    cases hs : f.shards[i]? <;> simp [hs, hF]

theorem length_rescale : (f.rescale desired).shards.length = f.shards.length := by
  have hgroups := f.map_rescale desired (F := fun s => s.group) fun _ _ => rfl
  simpa using congrArg List.length hgroups

theorem ready_rescale (hready : ∀ i s, f.shards[i]? = some s → i < f.active → s.ready = true)
    (i : Nat) (s : Shard ρ) (hs : (f.rescale desired).shards[i]? = some s)
    (hi : i < (f.rescale desired).active) : s.ready = true := by
  simp only [rescale] at hs hi
  split at hs
  · rename_i hsame
    rw [if_pos hsame] at hi
    exact hready i s hs hi
  · rename_i hchanged
    rw [if_neg hchanged] at hi
    rw [List.getElem?_mapIdx] at hs
    obtain ⟨t, -, rfl⟩ := Option.map_eq_some_iff.1 hs
    exact decide_eq_true hi

end

def owners (f : Fleet InMemory) (h : Fingerprint) : Nat := f.shards.countP (·.owns h)

/-- No replica fails, no target has two owners, and the shards outside the pool own nothing. -/
structure Sound (maxShards : Int) (f : Fleet InMemory) : Prop where
  one_le : 1 ≤ f.active
  active_le : f.active ≤ f.shards.length
  active_le_max : (f.active : Int) ≤ max 1 maxShards
  ready : ∀ i s, f.shards[i]? = some s → i < f.active → s.ready = true
  holds : ∀ s ∈ f.shards, ∃ states, s.Holds states
  parked : ∀ i s, f.shards[i]? = some s → f.active ≤ i → ∀ h, s.owns h = false
  owners_le : ∀ h, f.owners h ≤ 1

variable {maxShards : Int} {f : Fleet InMemory}

theorem Sound.countP_pool (hf : f.Sound maxShards) (h : Fingerprint) :
    f.pool.countP (·.owns h) = f.owners h := by
  have hparked : (f.shards.drop f.active).countP (·.owns h) = 0 := by
    refine List.countP_eq_zero.2 fun s hmem => ?_
    obtain ⟨i, hs⟩ := List.mem_iff_getElem?.1 hmem
    rw [List.getElem?_drop] at hs
    simp [hf.parked _ s hs (Nat.le_add_right _ _) h]
  calc f.pool.countP (·.owns h)
      = (f.shards.take f.active ++ f.shards.drop f.active).countP (·.owns h) := by
        rw [List.countP_append, hparked, Nat.add_zero, pool]
    _ = f.owners h := by rw [List.take_append_drop, owners]

theorem Sound.any_pool_iff (hf : f.Sound maxShards) (h : Fingerprint) :
    f.pool.any (·.owns h) = true ↔ 0 < f.owners h := by
  rw [← hf.countP_pool, List.countP_pos_iff, List.any_eq_true]

theorem getElem?_update_of_lt {shards : List (Shard InMemory)} (hlength : shards.length = f.active)
    {i : Nat} (hi : i < f.active) : (f.update shards).shards[i]? = shards[i]? :=
  List.getElem?_append_left (by rwa [hlength])

theorem Sound.update (hf : f.Sound maxShards) {shards : List (Shard InMemory)} {planned : Pool}
    (hshow : Shard.AllShow shards planned) (hlength : planned.length = f.active)
    (howners : ∀ h, planned.owners h ≤ 1) :
    (f.update shards).Sound maxShards ∧ ∀ h, (f.update shards).owners h = planned.owners h := by
  have hlen : shards.length = f.active := hshow.length_eq.trans hlength
  have hcount : ∀ h, (f.update shards).owners h = planned.owners h := by
    intro h
    have hpool := hf.countP_pool h
    have hall : (f.shards.take f.active ++ f.shards.drop f.active).countP (·.owns h) = f.owners h := by
      rw [List.take_append_drop, owners]
    rw [List.countP_append, ← hpool, pool] at hall
    rw [owners, Fleet.update, List.countP_append, hshow.countP_owns]
    omega
  have hbehind : ∀ i, f.active ≤ i → (f.update shards).shards[i]? = f.shards[i]? := by
    intro i hi
    rw [Fleet.update, List.getElem?_append_right (by rwa [hlen]), List.getElem?_drop, hlen,
      Nat.add_sub_cancel' hi]
  refine ⟨⟨hf.one_le, ?_, hf.active_le_max, ?_, ?_, ?_, fun h => (hcount h).trans_le (howners h)⟩,
    hcount⟩
  · have hactive := hf.active_le
    simp only [Fleet.update, List.length_append, List.length_drop, hlen]
    omega
  · intro i s hs hi
    rw [getElem?_update_of_lt hlen hi] at hs
    obtain ⟨-, -, -, hready⟩ := hshow.getElem? hs
    exact hready
  · intro s hmem
    rcases List.mem_append.1 hmem with hmem | hmem
    · obtain ⟨i, hs⟩ := List.mem_iff_getElem?.1 hmem
      obtain ⟨info, -, hshows, -⟩ := hshow.getElem? hs
      exact ⟨_, hshows.holds⟩
    · exact hf.holds s (List.mem_of_mem_drop hmem)
  · intro i s hs hi
    rw [hbehind i hi] at hs
    exact hf.parked i s hs hi

theorem exists_getElem?_of_rescale {desired : Int} {i : Nat} {s : Shard InMemory}
    (hs : (f.rescale desired).shards[i]? = some s) :
    ∃ t, f.shards[i]? = some t ∧ t.group = s.group := by
  have hgroups := f.map_rescale desired (F := fun s => s.group) fun _ _ => rfl
  have hgroup := congrArg (·[i]?) hgroups
  simp only [List.getElem?_map, hs, Option.map_some] at hgroup
  exact Option.map_eq_some_iff.1 hgroup.symm

theorem owners_rescale (f : Fleet InMemory) (desired : Int) (h : Fingerprint) :
    (f.rescale desired).owners h = f.owners h := by
  have howns := f.map_rescale desired (F := fun s => s.owns h) fun _ _ => rfl
  have hcount := congrArg (List.countP id) howns
  rwa [List.countP_map, List.countP_map] at hcount

theorem Sound.rescale (hf : f.Sound maxShards) {desired : Int}
    (hle : desired ≤ max (f.active : Int) maxShards)
    (hleave : ∀ (i : Nat) (s : Shard InMemory), f.shards[i]? = some s → 1 ≤ i → desired ≤ i →
      i < f.active → ∀ h, s.owns h = false) : (f.rescale desired).Sound maxShards := by
  have hlength := f.length_rescale desired
  have hone := hf.one_le
  have hactive := hf.active_le
  have hmax := hf.active_le_max
  have hsize : (f.rescale desired).active = Max.max 1 (min desired.toNat f.shards.length) :=
    f.rescale_active desired
  refine ⟨?_, ?_, ?_, f.ready_rescale desired hf.ready, ?_, ?_, fun h => ?_⟩
  · omega
  · omega
  · omega
  · intro s hmem
    obtain ⟨i, hs⟩ := List.mem_iff_getElem?.1 hmem
    obtain ⟨t, ht, hgroup⟩ := exists_getElem?_of_rescale hs
    obtain ⟨states, hholds⟩ := hf.holds t (List.mem_of_getElem? ht)
    exact ⟨states, fun r hr => hholds r (hgroup ▸ hr)⟩
  · intro i s hs hi h
    obtain ⟨t, ht, hgroup⟩ := exists_getElem?_of_rescale hs
    have hsame : s.owns h = t.owns h := by rw [Shard.owns, Shard.owns, hgroup]
    rw [hsame]
    -- A shard outside the new pool was outside the old one, or leaves it now.
    by_cases hpool : i < f.active
    · exact hleave i t ht (by omega) (by omega) hpool h
    · exact hf.parked i t ht (by omega) h
  · rw [owners_rescale]
    exact hf.owners_le h

/-- The fleet after a pool that shows it has been planned for and the plan has been followed. -/
theorem Sound.planned {σ : Type} {planner : Planner} (hf : f.Sound planner.policy.maxShards)
    {shards : List (Shard InMemory)} {pool : Pool} (hshow : Shard.AllShow shards pool)
    (hlength : pool.length = f.active) (howners : ∀ h, pool.owners h = f.owners h)
    (lookup : Lookup σ) (now : Nat) (active : TargetsByJob) (explored : σ) :
    let plan := planner.plan lookup now active pool explored
    let f' := (f.update (shards.zipWith Coordinator.sendAssignment plan.pool)).rescale
      plan.desiredShards
    f'.Sound planner.policy.maxShards ∧ ∀ h, f'.owners h = plan.pool.owners h := by
  intro plan f'
  have hplanned : plan.pool.length = f.active :=
    (Planner.plan_length lookup now active planner pool explored).trans hlength
  have hsent := Coordinator.sendAssignments_show hshow
    (Planner.plan_assigns lookup now active planner pool explored)
  have hle : ∀ h, plan.pool.owners h ≤ 1 := by
    intro h
    calc plan.pool.owners h
        ≤ Nat.max 1 (pool.owners h) := Planner.owners_plan_le lookup now active planner pool explored h
      _ ≤ 1 := Nat.max_le.2 ⟨le_rfl, (howners h).trans_le (hf.owners_le h)⟩
  obtain ⟨hupdated, hcount⟩ := hf.update hsent hplanned hle
  have hdesired : plan.desiredShards ≤ max (f.active : Int) planner.policy.maxShards := by
    have hle := Planner.desiredShards_le lookup now active planner pool explored
    rwa [hlength] at hle
  have hsmall : (pool.length : Int) ≤ max 1 planner.policy.maxShards := by
    rw [hlength]
    exact hf.active_le_max
  have hrescaled := hupdated.rescale hdesired fun i s hs hpos hi hlt h => by
    rw [getElem?_update_of_lt (hsent.length_eq.trans hplanned) hlt] at hs
    obtain ⟨info, hinfo, hshows, -⟩ := hsent.getElem? hs
    rw [hshows.owns_eq]
    exact Planner.has_eq_false_of_given_up lookup now active planner pool explored hsmall hpos hi
      hinfo h
  exact ⟨hrescaled, fun h => (owners_rescale _ _ h).trans (hcount h)⟩

end Fleet

end ScrapeFleet
