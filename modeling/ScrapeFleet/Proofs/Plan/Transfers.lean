import Mathlib.Data.List.Sigma
import ScrapeFleet.Proofs.Plan.Handover
import ScrapeFleet.Proofs.Plan.Receipts

/-!
# What shards let go of

Cleaning leaves at most one settled copy of each target, and only a settled one moves.
Once it has moved, neither what its shard keeps of it nor what the other shard has
received is settled.  So in a cycle no target moves twice, though shedding and draining
look at different targets, and the entries that shards have let go of can be read off
the pool: each of them belongs to one transfer.
-/

namespace ScrapeFleet

/-! ## Entries that have been let go of -/

namespace Pool

/-- The entries that their shards own before and let go of after, with the positions of the
shards. -/
def letGo (before after : Pool) : List (Nat × Fingerprint) :=
  before.zipIdx.flatMap fun (s, i) =>
    (s.scraping.keys.filter fun h =>
      (before.copies h i).any Status.isNormal && (after.copies h i).any Status.isMoving).map (i, ·)

variable {before after : Pool} {i : Nat} {h : Fingerprint}

theorem mem_letGo_iff :
    (i, h) ∈ before.letGo after ↔
      (before.copies h i).any Status.isNormal = true ∧
        (after.copies h i).any Status.isMoving = true := by
  simp only [letGo, List.mem_flatMap, Prod.exists, List.mem_zipIdx_iff_getElem?, List.mem_map,
    List.mem_filter, Bool.and_eq_true, Prod.mk.injEq]
  constructor
  · rintro ⟨s, k, -, h', ⟨-, hentry⟩, rfl, rfl⟩
    exact hentry
  · intro hentry
    obtain ⟨st, hst, -⟩ := Option.any_eq_true .. |>.1 hentry.1
    obtain ⟨s, hs, -, hget⟩ := copies_eq_some_iff.1 hst
    exact ⟨s, i, hs, h, ⟨SortedMap.mem_keys_iff.2 ⟨st, hget⟩, hentry⟩, rfl, rfl⟩

theorem nodup_letGo (before after : Pool) : (before.letGo after).Nodup := by
  refine List.nodup_flatMap.2 ⟨fun ⟨s, i⟩ _ => ?_, ?_⟩
  · exact (s.scraping.nodup_keys.filter _).map fun _ _ heq => (Prod.mk.inj heq).2
  · refine (List.pairwise_map.1 (List.nodup_zipIdx_map_snd before)).imp fun hne => ?_
    rintro ⟨i, h⟩ hleft hright
    obtain ⟨h₁, -, heq₁⟩ := List.mem_map.1 hleft
    obtain ⟨h₂, -, heq₂⟩ := List.mem_map.1 hright
    exact hne ((Prod.mk.inj heq₁).1.trans (Prod.mk.inj heq₂).1.symm)

end Pool

/-! ## Receipts from other shards -/

namespace Planning

variable {max : Int} {active : List Fingerprint} {pool pool' : Pool} {r : Receipt}
  {log : List Receipt} {h : Fingerprint} {i : Nat} {f g : Nat → Option Status}

/-- Shard `i` has given the target, with which it had settled, to the one that received it. -/
structure Given (r : Receipt) (i : Nat) (f g : Nat → Option Status) : Prop where
  ne : i ≠ r.dest
  copies : ∃ st, f i = some st ∧ st.isSettled = true ∧ st.series = r.series ∧
    g = Function.update (Function.update f i (some st.released)) r.dest (some (.fresh r.series))

theorem Given.eq_source {k : Nat} (given : Given r i f g)
    (hbefore : ∀ st, f k = some st → st.isNormal = true)
    (hmoving : (g k).any Status.isMoving = true) : k = i := by
  obtain ⟨st, -, -, -, rfl⟩ := given.copies
  by_contra hki
  by_cases hdest : k = r.dest
  · rw [hdest, Function.update_self] at hmoving
    cases hmoving
  · rw [Function.update_of_ne hdest, Function.update_of_ne hki] at hmoving
    obtain ⟨st', hst', hmoves⟩ := Option.any_eq_true .. |>.1 hmoving
    rw [Status.isMoving_eq_false (hbefore st' hst')] at hmoves
    cases hmoves

theorem Given.ne_none {k : Nat} (given : Given r i f g) (hf : f k ≠ none) : g k ≠ none := by
  obtain ⟨st, -, -, -, rfl⟩ := given.copies
  by_cases hdest : k = r.dest
  · simp [hdest]
  · rw [Function.update_of_ne hdest]
    by_cases hki : k = i
    · simp [hki]
    · rwa [Function.update_of_ne hki]

theorem Receives.copies_eq (receives : Receives max active r pool pool') (hne : h ≠ r.hash) :
    pool'.copies h = pool.copies h := by
  cases receives with
  | move hkj _ _ _ _ ht haccepts =>
      rw [Pool.copies_move hkj ht (ShardState.changeable_of_accepts haccepts), if_neg hne]
  | place _ _ ht haccepts =>
      rw [Pool.copies_receive ht (ShardState.changeable_of_accepts haccepts), if_neg hne]

theorem Received.copies_eq (received : Received max active log pool pool')
    (hnot : h ∉ log.map (·.hash)) : pool'.copies h = pool.copies h := by
  induction received with
  | nil => rfl
  | cons receives _ ih =>
      rw [List.map_cons, List.mem_cons, not_or] at hnot
      rw [ih hnot.2, receives.copies_eq hnot.1]

theorem Receives.given (receives : Receives max [] r pool pool') :
    ∃ i, Given r i (pool.copies r.hash) (pool'.copies r.hash) := by
  cases receives with
  | @move _ k j s t h st hkj hs hc hget hsettled ht haccepts =>
      have hst : pool.copies h k = some st := by rw [Pool.copies_eq_get? hs hc, hget]
      refine ⟨k, hkj, st, hst, hsettled, rfl, ?_⟩
      rw [Pool.copies_move hkj ht (ShardState.changeable_of_accepts haccepts), if_pos rfl, hst,
        Option.map_some]
  | place hactive => cases hactive

theorem Received.given (received : Received max [] log pool pool')
    (hnodup : (log.map (·.hash)).Nodup) (hr : r ∈ log) :
    ∃ i, Given r i (pool.copies r.hash) (pool'.copies r.hash) := by
  induction received with
  | nil => cases hr
  | cons receives received ih =>
      rw [List.map_cons, List.nodup_cons] at hnodup
      rcases List.mem_cons.1 hr with rfl | hr
      · rw [received.copies_eq hnodup.1]
        exact receives.given
      · have hne := ne_of_mem_of_not_mem (List.mem_map_of_mem hr) hnodup.1
        rw [← receives.copies_eq hne]
        exact ih hnodup.2 hr

end Planning

namespace Placement

variable {σ : Type}

theorem copies_placeTarget (p : Placement) (lookup : Lookup σ) (known : StatusMap) (max : Int)
    (acc : Outcome σ) (item : String × Target) (h : Fingerprint) (i : Nat) :
    (placeTarget p lookup known max acc item).pool.copies h i = acc.pool.copies h i ∨
      ∃ series, (placeTarget p lookup known max acc item).pool.copies h i =
        some (.fresh series) := by
  obtain heq | ⟨-, j, t, series, ht, haccepts, heq⟩ := placeTarget_cases p lookup known max acc item
  · exact .inl (by rw [heq])
  · rw [heq, Pool.copies_receive ht (ShardState.changeable_of_accepts haccepts)]
    by_cases hh : h = item.2.hash
    · by_cases hij : i = j
      · exact .inr ⟨series, by rw [if_pos hh, hij, Function.update_self]⟩
      · exact .inl (by rw [if_pos hh, hh, Function.update_of_ne hij])
    · exact .inl (by rw [if_neg hh])

theorem copies_run (p : Placement) (lookup : Lookup σ) (known : StatusMap) (max : Int)
    (active : TargetsByJob) (pool : Pool) (draws : Draws) (explored : σ) (h : Fingerprint)
    (i : Nat) :
    (p.run lookup known max active pool draws explored).pool.copies h i = pool.copies h i ∨
      ∃ series, (p.run lookup known max active pool draws explored).pool.copies h i =
        some (.fresh series) := by
  refine List.foldlRecOn (motive := fun acc : Outcome σ =>
    acc.pool.copies h i = pool.copies h i ∨ ∃ series, acc.pool.copies h i = some (.fresh series))
    _ _ (.inl rfl) ?_
  intro acc hacc item _
  rcases copies_placeTarget p lookup known max acc item h i with hsame | hfresh
  · rwa [hsame]
  · exact .inr hfresh

end Placement

/-! ## The whole cycle -/

namespace Planner

open Planning

variable {σ : Type}

def moved (lookup : Lookup σ) (now : Nat) (active : TargetsByJob) (planner : Planner)
    (pool : Pool) (explored : σ) : List Receipt :=
  let p := planner.policy
  let cleaned := (Cleanup.run active.hashes pool).1
  let shed := Shedding.run p.maxSeries cleaned
  let placed := (placement p).run lookup planner.known p.maxSeries active shed.pool
    planner.draws explored
  Shedding.receipts p.maxSeries cleaned ++
    resizeReceipts p now (Word.add shed.needSpace placed.needSpace) placed.pool

variable (lookup : Lookup σ) (now : Nat) (active : TargetsByJob) (planner : Planner)
  (pool : Pool) (explored : σ)

theorem length_moved :
    (planner.moved lookup now active pool explored).length =
      (planner.plan lookup now active pool explored).transfers := by
  rw [moved, List.length_append, ← (Shedding.received_run [] planner.policy.maxSeries _).2,
    ← (@received_resize [] planner.policy now _ _).2]
  rfl

theorem nodup_receipts :
    ((planner.receipts lookup now active pool explored).map (·.hash)).Nodup := by
  refine ((received_plan lookup now active planner pool explored).1.kept ?_
    (Cleanup.tidy_run active.hashes pool)).1
  exact fun h hinactive i => Option.eq_none_iff_forall_ne_some.2 fun st hst =>
    hinactive (Cleanup.mem_active_of_run hst)

theorem moved_sublist :
    (planner.moved lookup now active pool explored).Sublist
      (planner.receipts lookup now active pool explored) :=
  (List.Sublist.refl _).append (List.sublist_append_right _ _)

/-- After cleaning, a target moves once, or its copies stay as they are up to new ones. -/
theorem planned_cases (h : Fingerprint) :
    let before := (Cleanup.run active.hashes pool).1.copies h
    let after := (planner.planned lookup now active pool explored).1.copies h
    let moved := planner.moved lookup now active pool explored
    (∃ r ∈ moved, r.hash = h ∧ ∃ i, Given r i before after) ∨
      h ∉ moved.map (·.hash) ∧
        ∀ i, after i = before i ∨ ∃ series, after i = some (.fresh series) := by
  intro before after moved
  let p := planner.policy
  let cleaned := (Cleanup.run active.hashes pool).1
  let shed := Shedding.run p.maxSeries cleaned
  let placed := (placement p).run lookup planner.known p.maxSeries active shed.pool
    planner.draws explored
  have hshed := (Shedding.received_run [] p.maxSeries cleaned).1
  have hplaced := (Placement.received_run (placement p) lookup planner.known p.maxSeries active
    shed.pool planner.draws explored).1
  have hresized :=
    (@received_resize [] p now (Word.add shed.needSpace placed.needSpace) placed.pool).1
  have hnodup := nodup_receipts lookup now active planner pool explored
  simp only [receipts, List.map_append, List.nodup_append'] at hnodup
  obtain ⟨hshedNodup, ⟨-, hresizedNodup, hplacedResized⟩, hshedOthers⟩ := hnodup
  rw [List.disjoint_append_right] at hshedOthers
  -- As no target is received twice, the passes that do not move it leave its copies alone.
  by_cases hmemShed : h ∈ (Shedding.receipts p.maxSeries cleaned).map (·.hash)
  · obtain ⟨r, hr, rfl⟩ := List.mem_map.1 hmemShed
    obtain ⟨i, given⟩ := hshed.given hshedNodup hr
    rw [← hplaced.copies_eq (hshedOthers.1 hmemShed),
      ← hresized.copies_eq (hshedOthers.2 hmemShed)] at given
    exact .inl ⟨r, List.mem_append_left _ hr, rfl, i, given⟩
  have hafterShed := hshed.copies_eq hmemShed
  by_cases hmemResized : h ∈ (resizeReceipts p now (Word.add shed.needSpace placed.needSpace)
      placed.pool).map (·.hash)
  · obtain ⟨r, hr, rfl⟩ := List.mem_map.1 hmemResized
    obtain ⟨i, given⟩ := hresized.given hresizedNodup hr
    rw [hplaced.copies_eq fun hmem => hplacedResized hmem hmemResized, hafterShed] at given
    exact .inl ⟨r, List.mem_append_right _ hr, rfl, i, given⟩
  · refine .inr ⟨?_, fun i => ?_⟩
    · simpa [moved, Planner.moved] using not_or.2 ⟨hmemShed, hmemResized⟩
    · have hafter : after = placed.pool.copies h := hresized.copies_eq hmemResized
      rw [hafter]
      have hplacedCases := Placement.copies_run (placement p) lookup planner.known p.maxSeries
        active shed.pool planner.draws explored h i
      rwa [hafterShed] at hplacedCases

theorem given_of_letGo {i : Nat} {h : Fingerprint}
    (hentry : (i, h) ∈ pool.letGo (planner.plan lookup now active pool explored).pool) :
    ∃ r ∈ planner.moved lookup now active pool explored, r.hash = h ∧
      Given r i ((Cleanup.run active.hashes pool).1.copies h)
        ((planner.plan lookup now active pool explored).pool.copies h) := by
  obtain ⟨hnormal, hmoving⟩ := Pool.mem_letGo_iff.1 hentry
  have hbefore : ∀ st, (Cleanup.run active.hashes pool).1.copies h i = some st →
      st.isNormal = true := by
    intro st hst
    rwa [Cleanup.eq_of_run hst] at hnormal
  rw [plan_pool, Assignment.copies_build] at hmoving ⊢
  rcases planned_cases lookup now active planner pool explored h with
    ⟨r, hr, rfl, k, given⟩ | ⟨-, hsame⟩
  · obtain rfl := given.eq_source hbefore hmoving
    exact ⟨r, hr, rfl, given⟩
  · rcases hsame i with hsame | ⟨series, hfresh⟩
    · rw [hsame] at hmoving
      obtain ⟨st, hst, hmoves⟩ := Option.any_eq_true .. |>.1 hmoving
      rw [Status.isMoving_eq_false (hbefore st hst)] at hmoves
      cases hmoves
    · rw [hfresh] at hmoving
      cases hmoving

theorem letGo_of_moved {r : Receipt}
    (hr : r ∈ planner.moved lookup now active pool explored) :
    ∃ i, (i, r.hash) ∈ pool.letGo (planner.plan lookup now active pool explored).pool := by
  rcases planned_cases lookup now active planner pool explored r.hash with
    ⟨r', -, -, i, hne, st, hst, hsettled, -, hafter⟩ | ⟨hnot, -⟩
  · refine ⟨i, Pool.mem_letGo_iff.2 ⟨?_, ?_⟩⟩
    · rw [Cleanup.eq_of_run hst]
      exact isNormal_of_isSettled hsettled
    · rw [plan_pool, Assignment.copies_build, hafter, Function.update_of_ne hne,
        Function.update_self]
      rfl
  · exact absurd (List.mem_map_of_mem hr) hnot

theorem nodup_hashes_letGo :
    ((pool.letGo (planner.plan lookup now active pool explored).pool).map (·.2)).Nodup := by
  refine List.Nodup.map_on ?_ (Pool.nodup_letGo _ _)
  rintro ⟨i, h⟩ hi ⟨k, h'⟩ hk (rfl : h = h')
  obtain ⟨r, -, -, given⟩ := given_of_letGo lookup now active planner pool explored hi
  obtain ⟨hnormal, hmoving⟩ := Pool.mem_letGo_iff.1 hk
  rw [given.eq_source (fun st hst => by rwa [Cleanup.eq_of_run hst] at hnormal) hmoving]

theorem hashes_letGo_perm :
    ((pool.letGo (planner.plan lookup now active pool explored).pool).map (·.2)).Perm
      ((planner.moved lookup now active pool explored).map (·.hash)) := by
  refine (List.perm_ext_iff_of_nodup (nodup_hashes_letGo lookup now active planner pool explored)
    (((moved_sublist lookup now active planner pool explored).map _).nodup
      (nodup_receipts lookup now active planner pool explored))).2 fun h => ?_
  constructor
  · intro hmem
    obtain ⟨⟨i, h⟩, hentry, rfl⟩ := List.mem_map.1 hmem
    obtain ⟨r, hr, rfl, -⟩ := given_of_letGo lookup now active planner pool explored hentry
    exact List.mem_map_of_mem hr
  · intro hmem
    obtain ⟨r, hr, rfl⟩ := List.mem_map.1 hmem
    obtain ⟨i, hentry⟩ := letGo_of_moved lookup now active planner pool explored hr
    exact List.mem_map.2 ⟨_, hentry, rfl⟩

theorem cleaned_eq_none_of_plan {h : Fingerprint} {i : Nat}
    (hnone : (planner.plan lookup now active pool explored).pool.copies h i = none) :
    (Cleanup.run active.hashes pool).1.copies h i = none := by
  rw [plan_pool, Assignment.copies_build] at hnone
  rcases planned_cases lookup now active planner pool explored h with
    ⟨r, -, -, k, given⟩ | ⟨-, hsame⟩
  · by_contra hsome
    exact given.ne_none hsome hnone
  · rcases hsame i with hsame | ⟨series, hfresh⟩
    · rw [← hsame, hnone]
    · rw [hfresh] at hnone
      cases hnone

/-- In a cycle no target is transferred twice, and there are as many transfers as entries that have
been let go of.  Such an entry was stable and counts its scrapes anew, and another shard has a fresh
copy with as many series.  Only stable entries and those of inactive targets are dropped. -/
theorem plan_transfers :
    ((planner.moved lookup now active pool explored).map (·.hash)).Nodup ∧
      let out := planner.plan lookup now active pool explored
      let moved := planner.moved lookup now active pool explored
      moved.length = out.transfers ∧ (pool.letGo out.pool).length = out.transfers ∧
      ((pool.letGo out.pool).map (·.2)).Perm (moved.map (·.hash)) ∧
      (∀ h i st st', pool.copies h i = some st → st.state = .normal →
        out.pool.copies h i = some st' → st'.state = .inTransfer →
        Status.settledAfter ≤ st.scrapes ∧ st'.scrapes = 0 ∧
          ∃ j, j ≠ i ∧ out.pool.copies h j = some (.fresh st.series)) ∧
      ∀ h i st, pool.copies h i = some st →
        (out.pool.copies h i = none ∨
          (Cleanup.run active.hashes pool).1.copies h i = none) →
        Status.settledAfter ≤ st.scrapes ∨ h ∉ active.hashes := by
  have hperm := hashes_letGo_perm lookup now active planner pool explored
  have hlength := length_moved lookup now active planner pool explored
  refine ⟨hperm.nodup_iff.1 (nodup_hashes_letGo lookup now active planner pool explored), ?_⟩
  intro out moved
  refine ⟨hlength, ?_, hperm, ?_, ?_⟩
  · rw [← hlength]
    simpa using hperm.length_eq
  · intro h i st st' hst hnormal hst' hmoving
    have hentry : (i, h) ∈ pool.letGo out.pool := by
      refine Pool.mem_letGo_iff.2 ⟨?_, ?_⟩
      · simpa [hst] using Status.isNormal_iff.2 hnormal
      · simp [hst', Status.isMoving, hmoving]
    obtain ⟨r, -, rfl, hne, st₀, hst₀, hsettled, hseries, hafter⟩ :=
      given_of_letGo lookup now active planner pool explored hentry
    obtain rfl : st₀ = st := by
      have hsame := Cleanup.eq_of_run hst₀
      rwa [hst, Option.some.injEq, eq_comm] at hsame
    refine ⟨?_, ?_, r.dest, hne.symm, ?_⟩
    · simp only [Status.isSettled, Bool.and_eq_true] at hsettled
      exact of_decide_eq_true hsettled.2
    · rw [show out.pool.copies r.hash = _ from hafter, Function.update_of_ne hne,
        Function.update_self, Option.some.injEq] at hst'
      rw [← hst']
      rfl
    · rw [show out.pool.copies r.hash = _ from hafter, Function.update_self, hseries]
  · intro h i st hst hnone
    have hcleaned : (Cleanup.run active.hashes pool).1.copies h i = none :=
      hnone.elim (cleaned_eq_none_of_plan lookup now active planner pool explored) id
    rcases Cleanup.dropped_run active.hashes pool h i with hsame | ⟨-, hreason⟩
    · rw [hcleaned, hst] at hsame
      cases hsame
    · exact (hreason st hst).imp_left of_decide_eq_true

theorem plan_transfers_of_uneven :
    let active : TargetsByJob := .ofList
      [("node", [1, 2, 3, 4].map fun h => { hash := h, job := "node", url := "" })]
    let planner : Planner :=
      { policy := ⟨100, 16, .ofSecs 60, .ofSecs 15⟩, draws := { ahead := [] } }
    let lookup : Lookup Unit :=
      ⟨fun _ _ e => (some { health := .good, series := 10 }, e), fun _ _ _ => none⟩
    let out := planner.plan lookup 1000 active uneven ()
    (uneven.copies 3 2 = some { health := .good, series := 5, scrapes := 5 } ∧
        ∃ st', out.pool.copies 3 2 = some st' ∧ st'.state = .inTransfer ∧ st'.scrapes = 0) ∧
      uneven.letGo out.pool = [(0, 1), (2, 3)] ∧ out.transfers = 2 ∧
      ∃ j, j ≠ 2 ∧ out.pool.copies 3 j = some (.fresh 5) := by
  intro active planner lookup out
  have hbefore : uneven.copies 3 2 = some { health := .good, series := 5, scrapes := 5 } := by
    decide +kernel
  have hafter : out.pool.copies 3 2 =
      some { health := .good, series := 5, scrapes := 0, state := .inTransfer } := by
    decide +kernel
  have hletGo : uneven.letGo out.pool = [(0, 1), (2, 3)] := by decide +kernel
  obtain ⟨-, -, hlength, -, htransfers, -⟩ := plan_transfers lookup 1000 active planner uneven ()
  obtain ⟨-, hzero, hfresh⟩ := htransfers 3 2 _ _ hbefore rfl hafter rfl
  refine ⟨⟨hbefore, _, hafter, rfl, hzero⟩, hletGo, ?_, hfresh⟩
  rw [← hlength]
  exact congrArg List.length hletGo

end Planner

end ScrapeFleet
