import Mathlib.Logic.Relation
import ScrapeFleet.Proofs.Plan.Idempotence

/-!
# How long a status is remembered

A planner keeps the statuses that its last cycle ended with, and nothing older.  While no
shard holds a target and exploration has no good answer, a good status from before is
used once: the cycle places the target or asks for space for it, but the copy that it
places is of unknown health, and so is the status of a target without a copy.
-/

namespace ScrapeFleet

open Planning

/-! ## Exploration without answers -/

namespace Lookup

variable {σ : Type} {lookup : Lookup σ} {h : Fingerprint} {e e' : σ}

def Asked (lookup : Lookup σ) (e e' : σ) : Prop := ∃ job t, e' = (lookup.explore job t e).2

def Silent (lookup : Lookup σ) (h : Fingerprint) (e : σ) : Prop :=
  ∀ e', Relation.ReflTransGen lookup.Asked e e' → ∀ job st,
    (∀ t, t.hash = h → (lookup.explore job t e').1 = some st → st.health ≠ .good) ∧
      (lookup.estimate job h e' = some st → st.health ≠ .good)

theorem Silent.asked (hsilent : lookup.Silent h e)
    (asked : Relation.ReflTransGen lookup.Asked e e') : lookup.Silent h e' :=
  fun e'' asked' => hsilent e'' (asked.trans asked')

end Lookup

/-! ## Targets that find no shard -/

namespace Placement

variable {σ : Type} (p : Placement) (lookup : Lookup σ) (known : StatusMap) (max : Int)

def refused (acc : Outcome σ) (item : String × Target) : List (Fingerprint × Int) :=
  if acc.pool.holds item.2.hash then []
  else
    match wanted max (estimate lookup known item.1 item.2 acc.explored).1 with
    | none => []
    | some series =>
      match (p.pick acc.pool series max acc.draws).1 with
      | none => [(item.2.hash, series)]
      | some _ => []

def refusals : List (String × Target) → Outcome σ → List (Fingerprint × Int)
  | [], _ => []
  | item :: items, acc =>
    refused p lookup known max acc item ++ refusals items (placeTarget p lookup known max acc item)

variable {p lookup known max} {acc : Outcome σ} {item : String × Target} {h : Fingerprint}

theorem needSpace_placeTarget (acc : Outcome σ) (item : String × Target) :
    (placeTarget p lookup known max acc item).needSpace =
      ((refused p lookup known max acc item).map (·.2)).foldl Word.add acc.needSpace := by
  unfold refused
  cases hholds : acc.pool.holds item.2.hash with
  | true => simp [placeTarget, hholds]
  | false =>
      rw [placeTarget_of_not_held hholds, place_eq, if_neg Bool.false_ne_true]
      cases wanted max (estimate lookup known item.1 item.2 acc.explored).1 with
      | none => simp
      | some series =>
          dsimp only
          rcases p.pick acc.pool series max acc.draws with ⟨_ | j, draws⟩ <;> simp

theorem needSpace_foldl (items : List (String × Target)) (acc : Outcome σ) :
    (items.foldl (placeTarget p lookup known max) acc).needSpace =
      ((refusals p lookup known max items acc).map (·.2)).foldl Word.add acc.needSpace := by
  induction items generalizing acc with
  | nil => rfl
  | cons item items ih =>
      rw [List.foldl_cons, ih, needSpace_placeTarget, refusals, List.map_append, List.foldl_append]

theorem length_refusals_le (items : List (String × Target)) (acc : Outcome σ) :
    (refusals p lookup known max items acc).length ≤ items.length := by
  induction items generalizing acc with
  | nil => exact le_rfl
  | cons item items ih =>
      have hone : (refused p lookup known max acc item).length ≤ 1 := by
        unfold refused
        split
        · exact Nat.zero_le 1
        · split
          · exact Nat.zero_le 1
          · split <;> simp
      have hrest := ih (placeTarget p lookup known max acc item)
      rw [refusals, List.length_append, List.length_cons]
      omega

theorem asked_placeTarget (acc : Outcome σ) (item : String × Target) :
    Relation.ReflTransGen lookup.Asked acc.explored
      (placeTarget p lookup known max acc item).explored := by
  have hestimate : Relation.ReflTransGen lookup.Asked acc.explored
      (estimate lookup known item.1 item.2 acc.explored).2 := by
    unfold estimate
    split
    · split
      · exact .refl
      · exact .single ⟨_, _, rfl⟩
    · exact .single ⟨_, _, rfl⟩
  cases hholds : acc.pool.holds item.2.hash with
  | true =>
      rw [placeTarget, if_pos hholds]
  | false =>
      rw [placeTarget_of_not_held hholds, place_eq]
      split
      · exact hestimate
      · split <;> exact hestimate

theorem asked_foldl (items : List (String × Target)) (acc : Outcome σ) :
    Relation.ReflTransGen lookup.Asked acc.explored
      (items.foldl (placeTarget p lookup known max) acc).explored := by
  induction items generalizing acc with
  | nil => exact .refl
  | cons item items ih => exact (asked_placeTarget acc item).trans (ih _)

theorem holds_placeTarget_of_ne (hne : h ≠ item.2.hash) :
    (placeTarget p lookup known max acc item).pool.holds h = acc.pool.holds h := by
  obtain heq | ⟨-, j, t, series, ht, -, heq⟩ := placeTarget_cases p lookup known max acc item
  · rw [heq]
  · rw [heq, Pool.holds_receive ht]
    simp [hne]

theorem not_mem_refused_of_ne (hne : h ≠ item.2.hash) :
    h ∉ (refused p lookup known max acc item).map (·.1) := by
  unfold refused
  split
  · simp
  · split
    · simp
    · split <;> simp [hne]

theorem copies_foldl_of_unsettled {active : List Fingerprint} {items : List (String × Target)}
    (hactive : ∀ item ∈ items, item.2.hash ∈ active) {h : Fingerprint} (hh : h ∈ active) {j : Nat}
    {st : Status} (hst : acc.pool.copies h j = some st) (hun : Unsettled (acc.pool.copies h)) :
    (items.foldl (placeTarget p lookup known max) acc).pool.copies h = acc.pool.copies h := by
  have hsteps : Steps max active acc.pool
      (items.foldl (placeTarget p lookup known max) acc).pool :=
    Steps.foldl (placeTarget p lookup known max) (·.pool)
      (fun acc item hmem => placeTarget_steps p lookup known acc (hactive item hmem)) acc
  exact hsteps.copies_eq_of_unsettled hh hst hun

/-! ### A target with a good status -/

theorem placeTarget_of_wanted {series : Int}
    (hwanted : wanted max (estimate lookup known item.1 item.2 acc.explored).1 = some series)
    (hholds : acc.pool.holds item.2.hash = false) :
    (¬ acc.pool.Refuses max series ∧
      ∃ j, (placeTarget p lookup known max acc item).pool.copies item.2.hash j =
          some (.fresh series) ∧
        Unsettled ((placeTarget p lookup known max acc item).pool.copies item.2.hash)) ∨
      ((p.pick acc.pool series max acc.draws).1 = none ∧
        (placeTarget p lookup known max acc item).pool = acc.pool ∧
        refused p lookup known max acc item = [(item.2.hash, series)]) := by
  rcases hpick : p.pick acc.pool series max acc.draws with ⟨_ | j, draws⟩
  · refine .inr ⟨rfl, ?_, ?_⟩
    · simp [placeTarget_of_not_held hholds, place_eq, hwanted, hpick]
    · simp [refused, hholds, hwanted, hpick]
  · obtain ⟨t, ht, haccepts⟩ := accepts_of_pick hpick
    have hpool : (placeTarget p lookup known max acc item).pool =
        acc.pool.modify j (·.receive item.2.hash series) := by
      simp [placeTarget_of_not_held hholds, place_eq, hwanted, hpick]
    have hroom : ¬ acc.pool.Refuses max series := fun hrefuses => by
      rw [hrefuses t (List.mem_of_getElem? ht)] at haccepts
      cases haccepts
    refine .inl ⟨hroom, j, ?_⟩
    rw [hpool, Pool.copies_receive ht (ShardState.changeable_of_accepts haccepts), if_pos rfl]
    refine ⟨Function.update_self .., fun i st' hst' => ?_⟩
    by_cases hij : i = j
    · rw [hij, Function.update_self, Option.some.injEq] at hst'
      rw [← hst']
      rfl
    · rw [Function.update_of_ne hij, Pool.copies_eq_none_of_holds hholds] at hst'
      cases hst'

theorem placed_or_refused {st : Status} (hknown : known.get? item.2.hash = some st)
    (hgood : st.health = .good) (hseries : st.series ≤ max)
    (hholds : acc.pool.holds item.2.hash = false) :
    (∃ j, (placeTarget p lookup known max acc item).pool.copies item.2.hash j =
        some (.fresh st.series) ∧
      Unsettled ((placeTarget p lookup known max acc item).pool.copies item.2.hash)) ∨
      (item.2.hash, st.series) ∈ refused p lookup known max acc item := by
  have hwanted : wanted max (estimate lookup known item.1 item.2 acc.explored).1 =
      some st.series := by
    simp [estimate, hknown, hgood, wanted, not_lt.2 hseries]
  rcases placeTarget_of_wanted hwanted hholds with ⟨-, hplaced⟩ | ⟨-, -, hrefused⟩
  · exact .inl hplaced
  · exact .inr (by simp [hrefused])

theorem placed_or_refused_foldl {st : Status} (hknown : known.get? h = some st)
    (hgood : st.health = .good) (hseries : st.series ≤ max) {active : List Fingerprint}
    {items : List (String × Target)} (hactive : ∀ item ∈ items, item.2.hash ∈ active)
    (hitem : ∃ item ∈ items, item.2.hash = h) (hholds : acc.pool.holds h = false) :
    (∃ j, (items.foldl (placeTarget p lookup known max) acc).pool.copies h j =
        some (.fresh st.series) ∧
      Unsettled ((items.foldl (placeTarget p lookup known max) acc).pool.copies h)) ∨
      (h, st.series) ∈ refusals p lookup known max items acc := by
  induction items generalizing acc with
  | nil =>
      obtain ⟨item, hmem, -⟩ := hitem
      cases hmem
  | cons item items ih =>
      rw [List.foldl_cons, refusals]
      have hrest : ∀ item ∈ items, item.2.hash ∈ active :=
        fun item hmem => hactive item (List.mem_cons_of_mem _ hmem)
      by_cases heq : item.2.hash = h
      · subst heq
        rcases placed_or_refused hknown hgood hseries hholds with ⟨j, hfresh, hun⟩ | hrefused
        · -- The new copy has not settled, so the rest of the pass leaves it alone.
          have hsame : (items.foldl (placeTarget p lookup known max)
              (placeTarget p lookup known max acc item)).pool.copies item.2.hash = _ :=
            copies_foldl_of_unsettled hrest (hactive item List.mem_cons_self) hfresh hun
          exact .inl ⟨j, by rw [hsame, hfresh], by rwa [hsame]⟩
        · exact .inr (List.mem_append_left _ hrefused)
      · obtain ⟨other, hmem, hother⟩ := hitem
        have hmem : other ∈ items := (List.mem_cons.1 hmem).resolve_left fun h' => heq (h' ▸ hother)
        refine (ih hrest ⟨other, hmem, hother⟩ ?_).imp_right (List.mem_append_right _)
        rw [holds_placeTarget_of_ne (Ne.symm heq), hholds]

/-! ### A target without one -/

theorem not_placed (hknown : ∀ st, known.get? h = some st → st.health ≠ .good)
    (hsilent : lookup.Silent h acc.explored) (hholds : acc.pool.holds h = false) :
    (placeTarget p lookup known max acc item).pool.holds h = false ∧
      h ∉ (refused p lookup known max acc item).map (·.1) := by
  by_cases heq : h = item.2.hash
  · subst heq
    have hestimate : estimate lookup known item.1 item.2 acc.explored =
        lookup.explore item.1 item.2 acc.explored := by
      unfold estimate
      split
      · rename_i st hst
        rw [if_neg (hknown st hst)]
      · rfl
    have hwanted : wanted max (lookup.explore item.1 item.2 acc.explored).1 = none := by
      cases hanswer : (lookup.explore item.1 item.2 acc.explored).1 with
      | none => rfl
      | some st =>
          have hbad := (hsilent acc.explored .refl item.1 st).1 item.2 rfl hanswer
          simp [wanted, hbad]
    rw [placeTarget_of_not_held hholds, place_eq, refused, hestimate, hwanted]
    exact ⟨hholds, by simp [hholds]⟩
  · exact ⟨(holds_placeTarget_of_ne heq).trans hholds, not_mem_refused_of_ne heq⟩

theorem not_placed_foldl (hknown : ∀ st, known.get? h = some st → st.health ≠ .good)
    (items : List (String × Target)) (hsilent : lookup.Silent h acc.explored)
    (hholds : acc.pool.holds h = false) :
    (items.foldl (placeTarget p lookup known max) acc).pool.holds h = false ∧
      h ∉ (refusals p lookup known max items acc).map (·.1) := by
  induction items generalizing acc with
  | nil => exact ⟨hholds, by simp [refusals]⟩
  | cons item items ih =>
      have hnow : (placeTarget p lookup known max acc item).pool.holds h = false ∧
          h ∉ (refused p lookup known max acc item).map (·.1) := not_placed hknown hsilent hholds
      obtain ⟨hstill, hnot⟩ := hnow
      obtain ⟨hrest, hnotRest⟩ := ih (hsilent.asked (asked_placeTarget acc item)) hstill
      refine ⟨hrest, ?_⟩
      rw [refusals, List.map_append, List.mem_append, not_or]
      exact ⟨hnot, hnotRest⟩

end Placement

/-! ## Statuses that are remembered -/

namespace GlobalStatus

variable {σ : Type} {pool : Pool} {h : Fingerprint}

theorem exists_of_get?_merge {lookup : Lookup σ} {explored : σ} {active : TargetsByJob}
    {st : Status} (hst : (merge lookup explored active pool).get? h = some st) :
    ∃ job, st = merged pool (lookup.estimate job h explored) h := by
  revert st
  refine List.foldlRecOn (motive := fun m : StatusMap => ∀ {st}, m.get? h = some st →
    ∃ job, st = merged pool (lookup.estimate job h explored) h) _ _ (fun hst => by cases hst) ?_
  rintro m hm ⟨job, t⟩ - st hst
  rw [SortedMap.get?_insert] at hst
  split at hst
  · rename_i heq
    subst heq
    exact ⟨job, (Option.some.inj hst).symm⟩
  · exact hm hst

theorem health_of_mem_holders (hunknown : ∀ i st, pool.copies h i = some st → st.health = .unknown)
    {report : String × Status} (hreport : report ∈ holders pool h) :
    report.2.health = .unknown := by
  obtain ⟨s, hs, hget⟩ := List.mem_filterMap.1 hreport
  obtain ⟨hmem, hc⟩ := List.mem_filter.1 hs
  obtain ⟨st, hst, rfl⟩ := Option.map_eq_some_iff.1 hget
  obtain ⟨i, hi⟩ := List.mem_iff_getElem?.1 hmem
  exact hunknown i st (Pool.copies_eq_some_iff.2 ⟨s, hi, hc, hst⟩)

theorem health_merged (hunknown : ∀ i st, pool.copies h i = some st → st.health = .unknown)
    (estimate : Option Status) :
    (merged pool estimate h).health = (estimate.getD (.fresh 0)).health := by
  have hbest : ((holders pool h).map (·.2)).foldl better none = none := by
    refine List.foldlRecOn (motive := (· = none)) _ _ rfl ?_
    rintro best rfl st hmem
    obtain ⟨report, hreport, rfl⟩ := List.mem_map.1 hmem
    rw [better, if_pos (health_of_mem_holders hunknown hreport)]
  simp only [merged, hbest, Option.getD_none]

end GlobalStatus

/-! ## Targets that no shard holds -/

namespace Planning

variable {max : Int} {active : List Fingerprint} {pool pool' : Pool} {h : Fingerprint}

theorem Steps.health_eq_unknown (steps : Steps max active pool pool')
    (hholds : pool.holds h = false) :
    ∀ i st, pool'.copies h i = some st → st.health = .unknown := by
  refine steps.copies_induction (P := fun f => ∀ i st, f i = some st → st.health = .unknown) ?_ ?_
  · intro f g change hf i st hst
    cases change with
    | keep => exact hf i st hst
    | @drop k _ =>
        by_cases hik : i = k
        · simp [hik] at hst
        · rw [Function.update_of_ne hik] at hst
          exact hf i st hst
    | @move k j moved _ hmoved _ =>
        by_cases hij : i = j
        · rw [hij, Function.update_self, Option.some.injEq] at hst
          rw [← hst]
          rfl
        rw [Function.update_of_ne hij] at hst
        by_cases hik : i = k
        · rw [hik, Function.update_self, Option.some.injEq] at hst
          rw [← hst]
          exact hf k moved hmoved
        · rw [Function.update_of_ne hik] at hst
          exact hf i st hst
    | @place k _ _ hnone =>
        by_cases hik : i = k
        · rw [hik, Function.update_self, Option.some.injEq] at hst
          rw [← hst]
          rfl
        · rw [Function.update_of_ne hik, hnone] at hst
          cases hst
  · intro i st hst
    rw [Pool.copies_eq_none_of_holds hholds] at hst
    cases hst

theorem holds_cleaned {i : Nat} {s : ShardState} (hs : pool[i]? = some s)
    (hholds : pool.holds h = false) : (Cleanup.cleaned active pool i s).holds h = false := by
  rw [Pool.holds, List.any_eq_false] at hholds ⊢
  intro t ht
  rcases List.mem_or_eq_of_mem_set ht with hmem | rfl
  · exact hholds t hmem
  · have hnone := hholds s (List.mem_of_getElem? hs)
    rw [SortedMap.contains_eq_true_iff] at hnone ⊢
    rintro ⟨st, hst⟩
    rw [SortedMap.get?_filter, Option.filter_eq_some_iff] at hst
    exact hnone ⟨st, hst.1⟩

theorem Steps.holds_eq_false (steps : Steps max [] pool pool') (hholds : pool.holds h = false) :
    pool'.holds h = false := by
  induction steps with
  | refl => exact hholds
  | tail _ step ih =>
      cases step with
      | clean hs _ => exact holds_cleaned hs ih
      | move move => rw [move.holds_eq, ih]
      | place hactive => cases hactive

end Planning

theorem Cleanup.holds_run {active : List Fingerprint} {pool : Pool} {h : Fingerprint}
    (hholds : pool.holds h = false) : (run active pool).1.holds h = false := by
  refine List.foldlRecOn (motive := fun acc : Pool × Nat => acc.1.holds h = false) _ _ hholds ?_
  intro acc hacc i _
  obtain ⟨-, heq⟩ | ⟨s, hs, -, heq⟩ := cleanShard_cases active acc i
  · rwa [heq]
  · rw [heq]
    exact holds_cleaned hs hacc

/-! ## Cycles of one planner -/

structure Round (σ : Type) where
  lookup : Lookup σ
  now : Nat := 0
  active : TargetsByJob
  pool : Pool
  explored : σ

/-- The target is active, but no shard holds it and exploration has no good answer. -/
structure Round.Waits {σ : Type} (r : Round σ) (h : Fingerprint) : Prop where
  active : h ∈ r.active.hashes
  not_held : r.pool.holds h = false
  silent : r.lookup.Silent h r.explored

namespace Planner

variable {σ : Type} {planner : Planner} {r : Round σ} {h : Fingerprint}

def planRound (planner : Planner) (r : Round σ) : Outcome σ :=
  planner.plan r.lookup r.now r.active r.pool r.explored

def through (planner : Planner) (rounds : List (Round σ)) : Planner :=
  rounds.foldl (fun planner r => (planner.planRound r).planner) planner

def shed (planner : Planner) (r : Round σ) : Shedding.Outcome :=
  Shedding.run planner.policy.maxSeries (Cleanup.run r.active.hashes r.pool).1

def placed (planner : Planner) (r : Round σ) : Placement.Outcome σ :=
  (placement planner.policy).run r.lookup planner.known planner.policy.maxSeries r.active
    (planner.shed r).pool planner.draws r.explored

/-- The targets that are to be placed in a cycle and that no shard accepts, with their series. -/
def unmet (planner : Planner) (r : Round σ) : List (Fingerprint × Int) :=
  (placement planner.policy).refusals r.lookup planner.known planner.policy.maxSeries
    r.active.listed ⟨(planner.shed r).pool, 0, 0, planner.draws, r.explored⟩

/-- The space that a cycle asks for is that of overloaded shards and of unmet targets. -/
theorem needSpace_planRound (planner : Planner) (r : Round σ) :
    (planner.planRound r).needSpace =
      Word.wrap ((planner.shed r).needSpace + ((planner.unmet r).map (·.2)).sum) := by
  have hplaced : (planner.placed r).needSpace = Word.sum ((planner.unmet r).map (·.2)) :=
    Placement.needSpace_foldl _ _
  rw [← Word.wrap_add_wrap, ← Word.sum_eq_wrap]
  exact congrArg (Word.add (planner.shed r).needSpace) hplaced

theorem holds_shed (hholds : r.pool.holds h = false) : (planner.shed r).pool.holds h = false :=
  (Shedding.run_steps [] _ _).holds_eq_false (Cleanup.holds_run hholds)

theorem holds_planRound :
    (planner.planRound r).pool.holds h =
      (planner.filled r.lookup r.active r.pool r.explored).holds h := by
  rw [planRound, plan_pool, (Assignment.alike_build r.active _).holds_eq]
  exact (filled_moves r.lookup r.now r.active planner r.pool r.explored).holds_eq h

/-- A cycle in which a target waits leaves no good status of it. -/
theorem known_planRound (planner : Planner) (hwaits : r.Waits h) :
    ∀ st, (planner.planRound r).planner.known.get? h = some st → st.health ≠ .good := by
  intro st hst
  rw [planRound, plan_known] at hst
  obtain ⟨job, rfl⟩ := GlobalStatus.exists_of_get?_merge hst
  -- If there is a copy after the cycle, the cycle has placed it.
  have hunknown := (cycle_steps r.lookup r.now r.active planner r.pool r.explored).health_eq_unknown
    hwaits.not_held
  have hasked : Relation.ReflTransGen r.lookup.Asked r.explored (planner.placed r).explored :=
    Placement.asked_foldl r.active.listed
      ⟨(planner.shed r).pool, 0, 0, planner.draws, r.explored⟩
  rw [GlobalStatus.health_merged hunknown]
  change ((r.lookup.estimate job h (planner.placed r).explored).getD (.fresh 0)).health ≠ .good
  cases hestimate : r.lookup.estimate job h (planner.placed r).explored with
  | none => exact fun hgood => nomatch hgood
  | some st => exact (hwaits.silent _ hasked job st).2 hestimate

theorem placed_or_unmet {st : Status} (hknown : planner.known.get? h = some st)
    (hgood : st.health = .good) (hseries : st.series ≤ planner.policy.maxSeries)
    (hwaits : r.Waits h) :
    (∃ j, (planner.planRound r).pool.copies h j = some (.fresh st.series)) ∨
      (h, st.series) ∈ planner.unmet r := by
  have hactive : ∀ item ∈ r.active.listed, item.2.hash ∈ r.active.hashes :=
    fun item hmem => List.mem_map_of_mem hmem
  have hitem : ∃ item ∈ r.active.listed, item.2.hash = h := List.mem_map.1 hwaits.active
  refine (Placement.placed_or_refused_foldl hknown hgood hseries hactive hitem
    (holds_shed hwaits.not_held)).imp_left ?_
  rintro ⟨j, hfresh, hun⟩
  have hsteps := (filled_moves r.lookup r.now r.active planner r.pool r.explored).steps
    r.active.hashes
  refine ⟨j, ?_⟩
  rw [planRound, plan_pool, Assignment.copies_build,
    hsteps.copies_eq_of_unsettled hwaits.active hfresh hun]
  exact hfresh

theorem not_held_of_not_known (hknown : ∀ st, planner.known.get? h = some st → st.health ≠ .good)
    (hwaits : r.Waits h) :
    (planner.planRound r).pool.holds h = false ∧ h ∉ (planner.unmet r).map (·.1) := by
  rw [holds_planRound]
  exact Placement.not_placed_foldl hknown r.active.listed hwaits.silent
    (holds_shed hwaits.not_held)

theorem known_through {rounds : List (Round σ)}
    (hknown : ∀ st, planner.known.get? h = some st → st.health ≠ .good)
    (hwaits : ∀ r ∈ rounds, r.Waits h) :
    ∀ st, (planner.through rounds).known.get? h = some st → st.health ≠ .good := by
  refine List.foldlRecOn (motive := fun planner : Planner =>
    ∀ st, planner.known.get? h = some st → st.health ≠ .good) _ _ hknown ?_
  exact fun planner _ r hr => known_planRound planner (hwaits r hr)

/-- A good status that the last cycle has recorded for a target that waits from then on counts in
the next cycle, which places the target or asks for space for it, and in no later one. -/
theorem plan_remembers_once {recording first : Round σ} {later : List (Round σ)} {st : Status}
    (hrecorded : (planner.planRound recording).globalStatus.get? h = some st)
    (hgood : st.health = .good) (hseries : st.series < planner.policy.maxSeries)
    (hwaits : ∀ r ∈ first :: later, r.Waits h) :
    let next := (planner.planRound recording).planner
    let out := next.planRound first
    (out.needSpace =
          Word.wrap ((next.shed first).needSpace + ((next.unmet first).map (·.2)).sum) ∧
        ((∃ j, out.pool.copies h j = some (.fresh st.series)) ∨
          (h, st.series) ∈ next.unmet first)) ∧
      ∀ before r, before ++ [r] <+: later →
        let current := out.planner.through before
        (current.planRound r).needSpace =
            Word.wrap ((current.shed r).needSpace + ((current.unmet r).map (·.2)).sum) ∧
          (current.planRound r).pool.holds h = false ∧ h ∉ (current.unmet r).map (·.1) := by
  intro next out
  refine ⟨⟨needSpace_planRound next first, ?_⟩, fun before r hpart => ?_⟩
  · exact placed_or_unmet hrecorded hgood hseries.le (hwaits first List.mem_cons_self)
  · -- After the first cycle there is no good status any more, and none comes back.
    have hlater : ∀ r' ∈ before ++ [r], r'.Waits h :=
      fun r' hr' => hwaits r' (List.mem_cons_of_mem _ (hpart.subset hr'))
    have hknown := known_through (known_planRound next (hwaits first List.mem_cons_self))
      fun r' hr' => hlater r' (List.mem_append_left _ hr')
    exact ⟨needSpace_planRound _ r, not_held_of_not_known hknown (hlater r (by simp))⟩

def crowded : Pool :=
  [{ id := "s0", changeable := true, runtime := { headSeries := 80 },
     scraping := .ofList [(1, { health := .good, series := 30, scrapes := 5 })] },
   { id := "s1", changeable := true, runtime := { headSeries := 90 } }]

def crowdedAfter : Pool :=
  [{ id := "s0", changeable := true, runtime := { headSeries := 80 } },
   { id := "s1", changeable := true, runtime := { headSeries := 90 } }]

def unansweredRound (pool : Pool) : Round Unit where
  lookup := ⟨fun _ _ e => (none, e), fun _ _ _ => none⟩
  active := .ofList [("node", [{ hash := 1, job := "node", url := "" }])]
  pool := pool
  explored := ()

theorem waits_unansweredRound : (unansweredRound crowdedAfter).Waits 1 where
  active := by decide +kernel
  not_held := by decide +kernel
  silent := fun _ _ _ _ => ⟨fun _ _ hanswer => (nomatch hanswer), fun hanswer => nomatch hanswer⟩

theorem waits_of_mem_replicate {n : Nat} :
    ∀ r ∈ List.replicate n (unansweredRound crowdedAfter), r.Waits 1 := by
  intro r hr
  rw [List.eq_of_mem_replicate hr]
  exact waits_unansweredRound

theorem plan_remembers_once_of_crowded :
    let planner : Planner :=
      { policy := ⟨100, 16, .ofSecs 0, .ofSecs 15⟩, draws := { ahead := [] } }
    let next := (planner.planRound (unansweredRound crowded)).planner
    let out := next.planRound (unansweredRound crowdedAfter)
    ((next.known.get? 1).any (fun st => st.health = .good && st.series = 30) = true ∧
        (unansweredRound crowdedAfter).Waits 1) ∧
      next.unmet (unansweredRound crowdedAfter) = [(1, 30)] ∧ out.needSpace = 30 ∧
      (out.planner.planRound (unansweredRound crowdedAfter)).needSpace = 0 ∧
      1 ∉ (out.planner.unmet (unansweredRound crowdedAfter)).map (·.1) := by
  intro planner next out
  have hknown : (next.known.get? 1).any (fun st => st.health = .good && st.series = 30) = true := by
    decide +kernel
  have hunmet : next.unmet (unansweredRound crowdedAfter) = [(1, 30)] := by decide +kernel
  obtain ⟨st, hst, hgood⟩ := Option.any_eq_true .. |>.1 hknown
  simp only [Bool.and_eq_true, decide_eq_true_eq] at hgood
  have hrecorded :
      (planner.planRound (unansweredRound crowded)).globalStatus.get? 1 = some st := hst
  have hseries : st.series < planner.policy.maxSeries := by
    rw [hgood.2]
    decide
  obtain ⟨⟨hneed, -⟩, hlater⟩ :=
    plan_remembers_once hrecorded hgood.1 hseries (waits_of_mem_replicate (n := 2))
  obtain ⟨-, -, hforgotten⟩ := hlater [] _ (List.prefix_refl _)
  refine ⟨⟨hknown, waits_unansweredRound⟩, hunmet, ?_, by decide +kernel, hforgotten⟩
  rw [hneed, hunmet]
  decide +kernel

/-- Demand that was asked for once need not be asked for again, though it is still unmet. -/
theorem plan_forgets_demand :
    ¬ ∀ (planner : Planner) (recording : Round Unit) (rounds : List (Round Unit))
        (h : Fingerprint) (st : Status),
      (planner.planRound recording).globalStatus.get? h = some st → st.health = .good →
      st.series < planner.policy.maxSeries → (∀ r ∈ rounds, r.Waits h) →
      let next := (planner.planRound recording).planner
      ∀ before r, before ++ [r] <+: rounds →
        (∀ earlier r', earlier ++ [r'] <+: before →
          ((next.through earlier).planRound r').pool.holds h = false) →
        (∃ j, ((next.through before).planRound r).pool.copies h j = some (.fresh st.series)) ∨
          (h, st.series) ∈ (next.through before).unmet r := by
  intro hall
  let planner : Planner :=
    { policy := ⟨100, 16, .ofSecs 0, .ofSecs 15⟩, draws := { ahead := [] } }
  let waiting := unansweredRound crowdedAfter
  let next := (planner.planRound (unansweredRound crowded)).planner
  have hknown : (next.known.get? 1).any (fun st => st.health = .good && st.series = 30) = true := by
    decide +kernel
  obtain ⟨st, hst, hgood⟩ := Option.any_eq_true .. |>.1 hknown
  simp only [Bool.and_eq_true, decide_eq_true_eq] at hgood
  have hseries : st.series < planner.policy.maxSeries := by
    rw [hgood.2]
    decide
  have hfirst : (next.planRound waiting).pool.holds 1 = false := by decide +kernel
  have hsecond : ((next.through [waiting]).planRound waiting).pool.holds 1 = false := by
    decide +kernel
  have hunmet : (next.through [waiting]).unmet waiting = [] := by decide +kernel
  have hbefore : ∀ earlier r', earlier ++ [r'] <+: [waiting] →
      ((next.through earlier).planRound r').pool.holds 1 = false := by
    intro earlier r' hpart
    cases earlier with
    | nil =>
        obtain rfl : r' = waiting := by simpa using hpart
        exact hfirst
    | cons _ _ => simp at hpart
  rcases hall planner (unansweredRound crowded) [waiting, waiting] 1 st hst hgood.1 hseries
    (waits_of_mem_replicate (n := 2)) [waiting] waiting (List.prefix_refl _) hbefore with
    ⟨j, hplaced⟩ | hcounted
  · rw [Pool.copies_eq_none_of_holds hsecond] at hplaced
    cases hplaced
  · rw [hunmet] at hcounted
    cases hcounted

end Planner

end ScrapeFleet
