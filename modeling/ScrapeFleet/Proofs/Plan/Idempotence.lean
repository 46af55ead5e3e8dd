import ScrapeFleet.Proofs.Plan.Overload
import ScrapeFleet.Proofs.Plan.Resizing

/-!
# Planning is idempotent

Each pass of a cycle comes to rest, and no later pass of the cycle disturbs that: it
leaves the copies of every target tidy, lets loads only grow, and keeps who holds
what.  So a cycle on what a cycle has left finds nothing to drop, to shed, to place
or to drain, and asks for the same number of shards.  It goes by the statuses that
the first one remembered and not by exploration, but for a target that no shard
holds these say the same.
-/

namespace ScrapeFleet

/-! ## Remembered estimates -/

namespace GlobalStatus

variable {σ : Type} {lookup : Lookup σ} {answer : Fingerprint → Option Status} {max : Int}
  {active : TargetsByJob} {pool : Pool} {h : Fingerprint} {most : Int}

theorem get?_merge (hanswers : lookup.Answers answer most) (explored : σ) (pool : Pool)
    (hactive : h ∈ active.hashes) :
    (merge lookup explored active pool).get? h = some (merged pool (answer h) h) := by
  have hfold : ∀ (l : List (String × Target)) (m : StatusMap),
      (l.foldl (fun m item => m.insert item.2.hash
          (merged pool (lookup.estimate item.1 item.2.hash explored) item.2.hash)) m).get? h =
        if h ∈ l.map (·.2.hash) then some (merged pool (answer h) h) else m.get? h := by
    intro l
    induction l with
    | nil => exact fun m => rfl
    | cons item l ih =>
        intro m
        rw [List.foldl_cons, ih, SortedMap.get?_insert, hanswers.estimate]
        simp only [List.map_cons, List.mem_cons]
        by_cases hitem : h = item.2.hash
        · simp only [hitem, true_or, if_true, ite_self]
        · simp only [hitem, false_or, if_false]
  exact (hfold active.listed ∅).trans (if_pos hactive)

theorem merged_of_not_held (hheld : pool.holds h = false) (estimate : Option Status) :
    merged pool estimate h = { estimate.getD (.fresh 0) with shards := .ofList [] } := by
  have hholders : holders pool h = [] := by
    rw [holders, List.filterMap_eq_nil_iff]
    intro s hs
    have hnone : s.scraping.contains h = false :=
      Bool.eq_false_iff.2 (List.any_eq_false.1 hheld s (List.mem_of_mem_filter hs))
    rw [SortedMap.contains, Option.isSome_eq_false_iff, Option.isNone_iff_eq_none] at hnone
    rw [hnone, Option.map_none]
  rw [merged, hholders]
  rfl

theorem wanted_estimate_merge (hanswers : lookup.Answers answer most) {explored : σ} {job : String}
    {t : Target} (hactive : t.hash ∈ active.hashes) (hheld : pool.holds t.hash = false) (e : σ) :
    Placement.wanted max
        (Placement.estimate lookup (merge lookup explored active pool) job t e).1 =
      Placement.wanted max (answer t.hash) := by
  rw [Placement.estimate, get?_merge hanswers explored pool hactive, merged_of_not_held hheld]
  dsimp only
  cases hanswer : answer t.hash with
  | none =>
      rw [Option.getD_none, if_neg (by simp [Status.fresh]), hanswers.explore, hanswer]
  | some st =>
      rw [Option.getD_some]
      by_cases hgood : st.health = .good
      · rw [if_pos hgood]
        rfl
      · rw [if_neg hgood, hanswers.explore, hanswer]

end GlobalStatus

/-! ## At rest -/

namespace ShardState

variable {max most : Int} {s : ShardState}

theorem Within.filter (hs : s.Within most) (keep : Fingerprint → Status → Bool) :
    Within most { s with scraping := s.scraping.filter keep } := by
  intro h st hst
  rw [SortedMap.get?_filter, Option.filter_eq_some_iff] at hst
  exact hs h st hst.1

theorem grows_filter (hs : s.Within most) (keep : Fingerprint → Status → Bool) :
    s.Grows max { s with scraping := s.scraping.filter keep } := by
  refine ⟨rfl, le_rfl, .inl rfl, fun _ => movable_le_of_subset hs ?_⟩
  rintro ⟨h, series⟩ hc
  obtain ⟨st, hget, hmovable, hseries⟩ := Shedding.mem_candidates.1 hc
  rw [SortedMap.get?_filter, Option.filter_eq_some_iff] at hget
  exact Shedding.mem_candidates.2 ⟨st, hget.1, hmovable, hseries⟩

end ShardState

theorem Cleanup.grows_run {max most : Int} {pool : Pool} (active : List Fingerprint)
    (hpool : pool.Bounded max most) :
    pool.Grows max (run active pool).1 ∧ Pool.Bounded max most (run active pool).1 := by
  refine List.foldlRecOn (motive := fun acc : Pool × Nat =>
    pool.Grows max acc.1 ∧ acc.1.Bounded max most) _ _ ⟨.refl max pool, hpool⟩ ?_
  rintro acc ⟨hgrows, hbounded⟩ i -
  obtain ⟨-, heq⟩ | ⟨s, hs, -, heq⟩ := cleanShard_cases active acc i
  · rw [heq]
    exact ⟨hgrows, hbounded⟩
  · let keep := stays active acc.1 i s.head
    have hcleaned : (cleanShard active acc i).1 =
        acc.1.modify i fun s => { s with scraping := s.scraping.filter keep } := by
      rw [heq, cleaned, List.modify_eq_set_getElem?, hs]
      rfl
    have hstep : acc.1.Grows max (cleanShard active acc i).1 := by
      rw [hcleaned]
      exact Pool.grows_modify fun s hs =>
        ShardState.grows_filter (hbounded.within s (List.mem_of_getElem? hs)) keep
    refine ⟨hgrows.trans hstep, ?_⟩
    rw [hcleaned] at hstep ⊢
    exact hbounded.modify hstep fun s hs => hs.filter keep

namespace Planner

variable {σ : Type} {lookup : Lookup σ} {answer : Fingerprint → Option Status} {policy : Policy}
  {now : Nat} {active : TargetsByJob} {pool : Pool} {most : Int}

def shortage (max : Int) (answer : Fingerprint → Option Status) (active : TargetsByJob)
    (pool : Pool) : Int :=
  Word.add (Word.sum ((List.range pool.length).map (pool.surplusAt max)))
    (Word.sum (active.listed.map fun item => Placement.demand max answer pool item.2.hash))

def offered (max : Int) (answer : Fingerprint → Option Status) (active : TargetsByJob) : Int :=
  (active.listed.map fun item => (Placement.wanted max (answer item.2.hash)).getD 0).sum

/-- No sum that planning forms leaves the range of its numbers. -/
structure InRange (policy : Policy) (answer : Fingerprint → Option Status) (most : Int)
    (active : TargetsByJob) (pool : Pool) : Prop where
  bounded : pool.Bounded policy.maxSeries most
  weighable : placement policy = .weighted → pool.Weighable policy.maxSeries
  total_le : pool.burden policy.maxSeries + offered policy.maxSeries answer active ≤ Word.maxSigned

theorem InRange.grows {pool' : Pool} (hpool : InRange policy answer most active pool)
    (hgrows : pool.Grows policy.maxSeries pool') (hbounded : pool'.Bounded policy.maxSeries most) :
    InRange policy answer most active pool' where
  bounded := hbounded
  weighable hp := (hpool.weighable hp).grows hgrows
  total_le := by
    have hburden := hgrows.burden_le hpool.bounded.within
    have htotal := hpool.total_le
    omega

theorem InRange.surplusAt_eq_zero (hpool : InRange policy answer most active pool)
    (hanswers : lookup.Answers answer most) (hmax : 0 < policy.maxSeries)
    (hzero : shortage policy.maxSeries answer active pool = 0) (i : Nat) :
    pool.surplusAt policy.maxSeries i = 0 := by
  obtain ⟨hnonneg, hsurplus⟩ := hpool.bounded.sum_surplusAt hmax
  have hdemand : 0 ≤ (active.listed.map fun item =>
      Placement.demand policy.maxSeries answer pool item.2.hash).sum := by
    refine List.sum_nonneg fun x hx => ?_
    obtain ⟨item, -, rfl⟩ := List.mem_map.1 hx
    exact Placement.demand_nonneg hanswers _ pool _
  have hoffered : (active.listed.map fun item =>
      Placement.demand policy.maxSeries answer pool item.2.hash).sum ≤
        offered policy.maxSeries answer active :=
    List.sum_le_sum fun item _ => Placement.demand_le hanswers _ pool _
  have htotal := hpool.total_le
  have hmin : Word.minSigned ≤ 0 := by decide
  rw [shortage, Word.add, Word.sum_eq_wrap, Word.sum_eq_wrap, Word.wrap_wrap_add,
    Word.wrap_add_wrap, Word.wrap_eq_self ⟨by omega, by omega⟩] at hzero
  exact Shedding.surplusAt_eq_zero hpool.bounded hmax (by omega) i

/-- Nothing is left to do for the pool, and `desired` shards are asked for. -/
structure AtRest (policy : Policy) (answer : Fingerprint → Option Status) (now : Nat)
    (active : TargetsByJob) (pool : Pool) (desired : Int) : Prop where
  clean : ∀ i, Cleanup.IsClean active.hashes pool i
  stuck : ∀ i, Shedding.Stuck policy.maxSeries pool i
  served : ∀ item ∈ active.listed, Placement.Served policy.maxSeries answer pool item.2.hash
  resize_eq :
    resize policy now (shortage policy.maxSeries answer active pool) pool = (pool, desired, 0)
  build_eq : Assignment.build active pool = pool

/-- A cycle changes nothing in a pool at rest, if it goes by the same estimates. -/
theorem plan_of_atRest (planner : Planner) {desired : Int}
    (hrest : AtRest planner.policy answer now active pool desired)
    (hknown : ∀ job t e, (job, t) ∈ active.listed → pool.holds t.hash = false →
      Placement.wanted planner.policy.maxSeries
          (Placement.estimate lookup planner.known job t e).1 =
        Placement.wanted planner.policy.maxSeries (answer t.hash))
    (explored : σ) :
    let outcome := planner.plan lookup now active pool explored
    outcome.removed = 0 ∧ outcome.transfers = 0 ∧ outcome.placed = 0 ∧
      outcome.desiredShards = desired ∧
      outcome.needSpace = shortage planner.policy.maxSeries answer active pool ∧
      outcome.pool = pool := by
  obtain ⟨hpool, hplaced, hneed⟩ := Placement.run_of_served (placement planner.policy) hknown
    hrest.served planner.draws explored
  simp only [plan, Cleanup.run_of_isClean hrest.clean, Shedding.run_of_stuck hrest.stuck, hpool,
    hplaced, hneed]
  have hresize := hrest.resize_eq
  rw [shortage] at hresize
  simp only [hresize, hrest.build_eq, shortage, Nat.zero_add, and_self]

/-! ## Coming to rest -/

/-- Resizing leaves shards stuck and targets served, and the same space is needed. -/
theorem rest_of_resize (hanswers : lookup.Answers answer most) (hmax : 0 < policy.maxSeries)
    (hpool : InRange policy answer most active pool)
    (hstuck : ∀ i, Shedding.Stuck policy.maxSeries pool i)
    (hserved : ∀ item ∈ active.listed, Placement.Served policy.maxSeries answer pool item.2.hash)
    {need : Int} (hneed : need = shortage policy.maxSeries answer active pool) {q : Pool}
    (halike : (resize policy now need pool).1.Alike q) :
    (∀ i, Shedding.Stuck policy.maxSeries q i) ∧
      (∀ item ∈ active.listed, Placement.Served policy.maxSeries answer q item.2.hash) ∧
      shortage policy.maxSeries answer active q = need := by
  have hmoves := resize_moves policy now need pool
  obtain ⟨hmoved, hbounded⟩ := hmoves.grows hpool.bounded
  have hgrows : pool.Grows policy.maxSeries q := hmoved.trans halike.grows
  have hholds : ∀ h, q.holds h = pool.holds h :=
    fun h => (halike.holds_eq h).trans (hmoves.holds_eq h)
  have hstay : ∀ i, Shedding.Stuck policy.maxSeries q i ∧
      q.surplusAt policy.maxSeries i = pool.surplusAt policy.maxSeries i := by
    intro i
    -- Only a pool that needs no space is drained, and there no shard has a surplus.
    by_cases hzero : need = 0
    · have hsurplus := hpool.surplusAt_eq_zero hanswers hmax (hneed.symm.trans hzero) i
      rw [hsurplus]
      exact Shedding.stuck_of_surplusAt_eq_zero hmax hpool.bounded (hbounded.alike halike) hsurplus
        hgrows
    · rw [resize_of_ne_zero hzero now pool] at halike
      exact (hstuck i).spared hmax hpool.bounded hgrows (halike.spares i)
  refine ⟨fun i => (hstay i).1, fun item hitem => ?_, ?_⟩
  · exact (hserved item hitem).grows hanswers hpool.bounded.toHeadroom (hholds _) hgrows
  have hsurplus : q.surplusAt policy.maxSeries = pool.surplusAt policy.maxSeries :=
    funext fun i => (hstay i).2
  have hdemand : ∀ h, Placement.demand policy.maxSeries answer q h =
      Placement.demand policy.maxSeries answer pool h :=
    fun h => Placement.demand_eq_of_holds (hholds h)
  rw [hneed, shortage, shortage, hsurplus, ← hgrows.length_eq]
  simp only [hdemand]

theorem isClean_plan (lookup : Lookup σ) (now : Nat) (active : TargetsByJob) (planner : Planner)
    (pool : Pool) (explored : σ) (i : Nat) :
    Cleanup.IsClean active.hashes (planner.plan lookup now active pool explored).pool i := by
  rw [plan_pool]
  refine Cleanup.isClean_of_tidy (fun h k st hst => ?_) (fun h => ?_) i
  · rw [Assignment.copies_build] at hst
    exact mem_active_of_planned lookup now active planner pool explored hst
  · rw [Assignment.copies_build]
    exact (planned_steps lookup now active planner pool explored).copies_induction
      (fun f g change hf => hf.change change) (Cleanup.tidy_run active.hashes pool h)

/-- A cycle that remembers nothing leaves its pool at rest. -/
theorem plan_comes_to_rest (hanswers : lookup.Answers answer most) (hmax : 0 < policy.maxSeries)
    (hpool : InRange policy answer most active pool) (now : Nat) (draws : Draws) (explored : σ) :
    let outcome := plan lookup now active { policy, draws } pool explored
    AtRest policy answer now active outcome.pool outcome.desiredShards ∧
      outcome.needSpace = shortage policy.maxSeries answer active outcome.pool := by
  obtain ⟨hcleaned, hbounded⟩ := Cleanup.grows_run active.hashes hpool.bounded
  have hshed := Shedding.run_comes_to_rest hmax hbounded
  have hstuck := Shedding.stuck_run hmax hbounded
  set shed := Shedding.run policy.maxSeries (Cleanup.run active.hashes pool).1
  have hranged : InRange policy answer most active shed.pool :=
    (hpool.grows hcleaned hbounded).grows hshed.grows hshed.bounded
  set placed := (placement policy).run lookup ∅ policy.maxSeries active shed.pool draws explored
  have hplaced : Placement.Dealt policy.maxSeries most answer shed.pool active.listed placed :=
    Placement.run_comes_to_rest hanswers hranged.bounded hranged.weighable active draws explored
  have hstill := fun i =>
    (hstuck i).spared hmax hranged.bounded hplaced.grows (hplaced.spares i)
  set need := Word.add shed.needSpace placed.needSpace
  have hneed : need = shortage policy.maxSeries answer active placed.pool := by
    have hsurplus : placed.pool.surplusAt policy.maxSeries = shed.pool.surplusAt policy.maxSeries :=
      funext fun i => (hstill i).2
    rw [shortage, hsurplus, ← hplaced.grows.length_eq, ← hshed.grows.length_eq,
      ← hshed.needSpace_eq, ← hplaced.needSpace_eq]
  have halike := Assignment.alike_build active (resize policy now need placed.pool).1
  obtain ⟨hstuck', hserved', hshortage⟩ := rest_of_resize hanswers hmax
    (hranged.grows hplaced.grows hplaced.bounded) (fun i => (hstill i).1) hplaced.served hneed halike
  refine ⟨⟨isClean_plan lookup now active { policy, draws } pool explored, hstuck', hserved', ?_,
    Assignment.build_build active _⟩, hshortage.symm⟩
  have hresize := resize_again policy now need halike
  exact (congrArg (resize policy now · _) hshortage).trans hresize

/-! ## Planning again -/

theorem plan_known (lookup : Lookup σ) (now : Nat) (active : TargetsByJob) (planner : Planner)
    (pool : Pool) (explored : σ) :
    (planner.plan lookup now active pool explored).planner.known =
      GlobalStatus.merge lookup (planner.plan lookup now active pool explored).explored active
        (planner.planned lookup now active pool explored).1 := rfl

/-- Planning again on what a cycle has left, whatever is drawn, removes, transfers and places
nothing, asks for the same number of shards and the same space, and leaves every shard as it is. -/
theorem plan_idempotent (hanswers : lookup.Answers answer most) (hmax : 0 < policy.maxSeries)
    (hpool : InRange policy answer most active pool) (now : Nat) (draws draws' : Draws)
    (explored explored' : σ) :
    let first := plan lookup now active { policy, draws } pool explored
    let second := plan lookup now active { first.planner with draws := draws' } first.pool explored'
    second.removed = 0 ∧ second.transfers = 0 ∧ second.placed = 0 ∧
      second.desiredShards = first.desiredShards ∧ second.needSpace = first.needSpace ∧
      second.pool = first.pool := by
  intro first second
  obtain ⟨hrest, hneed⟩ := plan_comes_to_rest hanswers hmax hpool now draws explored
  have hknown : ∀ job t e, (job, t) ∈ active.listed → first.pool.holds t.hash = false →
      Placement.wanted policy.maxSeries
          (Placement.estimate lookup first.planner.known job t e).1 =
        Placement.wanted policy.maxSeries (answer t.hash) := by
    intro job t e hlisted hheld
    rw [plan_pool, (Assignment.alike_build active _).holds_eq] at hheld
    rw [plan_known]
    exact GlobalStatus.wanted_estimate_merge hanswers (List.mem_map_of_mem hlisted) hheld e
  rw [hneed]
  exact plan_of_atRest { first.planner with draws := draws' } hrest hknown explored'

def unbalanced : Pool :=
  [{ id := "s0", changeable := true, runtime := { headSeries := 115 },
     scraping := .ofList [(1, { health := .good, series := 60, scrapes := 5 }),
       (2, { health := .good, series := 55, scrapes := 5 })] },
   { id := "s1", changeable := true, runtime := { headSeries := 20 },
     scraping := .ofList [(3, { health := .good, series := 20, scrapes := 5 })] },
   { id := "s2", changeable := true, runtime := { headSeries := 30 },
     scraping := .ofList [(3, { health := .good, series := 20, scrapes := 4 })] }]

theorem plan_idempotent_of_unbalanced :
    let sampled : Fingerprint → Option Status := fun h =>
      if h = 4 then some { health := .good, series := 30 }
      else if h = 5 then some { health := .good, series := 50 } else none
    let lookup : Lookup Unit := ⟨fun _ t e => (sampled t.hash, e), fun _ h _ => sampled h⟩
    let policy : Policy := ⟨100, 16, .ofSecs 60, .ofSecs 15⟩
    let active : TargetsByJob := .ofList [("node", [1, 2, 3, 4, 5].map fun h =>
      { hash := h, job := "node", url := "" })]
    let first := plan lookup 1000 active { policy, draws := { ahead := [7] } } unbalanced ()
    let second := plan lookup 1000 active { first.planner with draws := { ahead := [] } } first.pool ()
    (lookup.Answers sampled 60 ∧ 0 < policy.maxSeries ∧
        InRange policy sampled 60 active unbalanced) ∧
      (first.removed = 1 ∧ first.transfers = 1 ∧ first.placed = 1 ∧ first.needSpace = 50) ∧
      second.removed = 0 ∧ second.transfers = 0 ∧ second.placed = 0 ∧
      second.desiredShards = first.desiredShards ∧ second.needSpace = first.needSpace ∧
      second.pool = first.pool := by
  intro sampled lookup policy active first second
  have hanswers : lookup.Answers sampled 60 := by
    refine ⟨fun _ _ _ => rfl, fun _ _ _ => rfl, fun h st hst => ?_⟩
    simp only [sampled] at hst
    split at hst
    · obtain rfl := Option.some.inj hst
      decide
    · split at hst
      · obtain rfl := Option.some.inj hst
        decide
      · cases hst
  have hmax : 0 < policy.maxSeries := by decide
  have hpool : Pool.Bounded 100 60 unbalanced := by
    have hentries : ∀ s ∈ unbalanced, ∀ e ∈ s.scraping.entries,
        0 ≤ e.2.series ∧ e.2.series ≤ 60 := by
      decide +kernel
    have hloads : ∀ s ∈ unbalanced, Word.minSigned ≤ s.head ∧ s.head + 60 ≤ Word.maxSigned := by
      decide
    exact ⟨⟨by decide, fun s hs => ⟨(hloads s hs).1, (hloads s hs).2⟩⟩,
      fun s hs h st hst => hentries s hs (h, st) (SortedMap.get?_eq_some_iff.1 hst),
      by decide +kernel⟩
  have hrange : InRange policy sampled 60 active unbalanced :=
    ⟨hpool, fun _ => ⟨by decide, by decide⟩, by decide +kernel⟩
  refine ⟨⟨hanswers, hmax, hrange⟩, by decide +kernel, ?_⟩
  exact plan_idempotent hanswers hmax hrange 1000 { ahead := [7] } { ahead := [] } () ()

end Planner

end ScrapeFleet
