import ScrapeFleet.Proofs.Plan.Ownership

/-!
# Targets in transfer

A shard lets go of a target while another shard settles with it, and cleaning takes
the entry away once that has happened.  A move does not look at what its destination
holds, so from a shard on which it has settled a target can come back to one that
still lets go of it.  And a target that is let go of counts as scraped: if it has
lost its owner, it is not placed again, and its entry stays as it is.
-/

namespace ScrapeFleet

/-! ## What cleaning keeps -/

namespace Cleanup

/-- The copy is still there, or it has been dropped for a reason: it is stable, or nobody wants
the target. -/
def Dropped (wanted : Prop) (before after : Option Status) : Prop :=
  after = before ∨ after = none ∧ ∀ st, before = some st → st.isStable = true ∨ ¬ wanted

theorem Dropped.trans {wanted : Prop} {a b c : Option Status} (hab : Dropped wanted a b)
    (hbc : Dropped wanted b c) : Dropped wanted a c := by
  rcases hab with rfl | ⟨rfl, hreason⟩
  · exact hbc
  · rcases hbc with rfl | ⟨rfl, -⟩ <;> exact .inr ⟨rfl, hreason⟩

theorem dropped_cleanShard (active : List Fingerprint) (acc : Pool × Nat) (i : Nat)
    (h : Fingerprint) (k : Nat) :
    Dropped (h ∈ active) (acc.1.copies h k) ((cleanShard active acc i).1.copies h k) := by
  obtain ⟨-, heq⟩ | ⟨s, hs, hc, heq⟩ := cleanShard_cases active acc i
  · exact .inl (by rw [heq])
  rw [heq, cleaned, Pool.copies_set (List.getElem?_eq_some_iff.1 hs).1, ShardState.copy?_filter hc]
  by_cases hk : k = i
  · subst hk
    rw [Function.update_self, Pool.copies_eq_copy? hs]
    cases s.copy? h with
    | none => exact .inl rfl
    | some st =>
        by_cases hstays : stays active acc.1 k s.head h st = true
        · exact .inl (by rw [Option.filter_some, if_pos hstays])
        · refine .inr ⟨by rw [Option.filter_some, if_neg hstays], fun st' hst' => ?_⟩
          obtain rfl := Option.some.inj hst'
          by_contra hreason
          obtain ⟨hunstable, hactive⟩ := not_or.1 hreason
          apply hstays
          simp [stays, losesDuplicate, Classical.not_not.1 hactive, hunstable]
  · exact .inl (by rw [Function.update_of_ne hk])

theorem dropped_run (active : List Fingerprint) (pool : Pool) (h : Fingerprint) (k : Nat) :
    Dropped (h ∈ active) (pool.copies h k) ((run active pool).1.copies h k) := by
  refine List.foldlRecOn (motive := fun acc : Pool × Nat =>
    Dropped (h ∈ active) (pool.copies h k) (acc.1.copies h k)) _ _ (.inl rfl) ?_
  intro acc hacc i _
  exact hacc.trans (dropped_cleanShard active acc i h k)

theorem copies_run (active : List Fingerprint) (pool : Pool) (h : Fingerprint) (k : Nat) :
    (run active pool).1.copies h k = none ∨ (run active pool).1.copies h k = pool.copies h k := by
  rcases dropped_run active pool h k with hsame | ⟨hnone, -⟩
  · exact .inr hsame
  · exact .inl hnone

theorem eq_of_run {active : List Fingerprint} {pool : Pool} {h : Fingerprint} {k : Nat}
    {st : Status} (hst : (run active pool).1.copies h k = some st) : pool.copies h k = some st := by
  rcases copies_run active pool h k with hnone | hsame
  · rw [hnone] at hst
    cases hst
  · rw [← hsame, hst]

end Cleanup

/-! ## Entries that are let go of -/

namespace Planning

variable {max : Int} {active : List Fingerprint} {pool pool' : Pool} {wanted : Prop}
  {f₀ f g : Nat → Option Status} {j : Nat}

/-- The target is still held, its entry on shard `j` has at most been dropped, and it has settled
nowhere but where it had before. -/
structure Retained (f₀ f : Nat → Option Status) (j : Nat) : Prop where
  held : ∃ k st, f k = some st
  entry : f j = none ∨ f j = f₀ j
  settled : ∀ i st, f i = some st → st.isSettled = true → f₀ i = some st

/-- Another shard, on which the target had settled, has given it to shard `j`. -/
def Returned (f₀ f : Nat → Option Status) (j : Nat) : Prop :=
  ∃ i st, i ≠ j ∧ f₀ i = some st ∧ st.isSettled = true ∧ f i = some st.released ∧
    f j = some (.fresh st.series)

theorem Retained.change (hf : Retained f₀ f j) (change : Change wanted f g) (hwanted : wanted)
    (htidy : Cleanup.Tidy f) (hentry : ∀ st, f₀ j = some st → st.isSettled = false) :
    Retained f₀ g j ∨ Returned f₀ g j ∧ Unsettled g := by
  have hheld : ∃ k st, g k = some st := by
    have hhas : Has (fun _ => true) f := by simpa [Has] using hf.held
    simpa [Has] using change.has (fun _ _ => rfl) (fun _ => rfl) hwanted hhas
  cases change with
  | keep => exact .inl hf
  | @drop k _ =>
      refine .inl ⟨hheld, ?_, fun i st hst hsettled => ?_⟩
      · by_cases hjk : j = k
        · exact .inl (by rw [hjk, Function.update_self])
        · rw [Function.update_of_ne hjk]
          exact hf.entry
      · by_cases hik : i = k
        · simp [hik] at hst
        · rw [Function.update_of_ne hik] at hst
          exact hf.settled i st hst hsettled
  | @move i k st hik hst hsettled =>
      have hun := htidy.unsettled_of_move hst hsettled k
      have hbefore := hf.settled i st hst hsettled
      have hij : i ≠ j := by
        rintro rfl
        rw [hentry st hbefore] at hsettled
        cases hsettled
      by_cases hkj : k = j
      · subst hkj
        refine .inr ⟨⟨i, st, hij, hbefore, hsettled, ?_, Function.update_self ..⟩, hun⟩
        rw [Function.update_of_ne hij, Function.update_self]
      · refine .inl ⟨hheld, ?_, fun n a ha hsettled' => ?_⟩
        · rw [Function.update_of_ne (Ne.symm hkj), Function.update_of_ne (Ne.symm hij)]
          exact hf.entry
        · rw [hun n a ha] at hsettled'
          cases hsettled'
  | place _ hnone =>
      obtain ⟨k, st, hst⟩ := hf.held
      rw [hnone k] at hst
      cases hst

/-- In the course of a cycle a target comes back at most once, as it must settle anew. -/
theorem Steps.retained_or_returned {h : Fingerprint} (steps : Steps max active pool pool')
    (hactive : h ∈ active) (htidy : Cleanup.Tidy (pool.copies h))
    (hretained : Retained f₀ (pool.copies h) j)
    (hentry : ∀ st, f₀ j = some st → st.isSettled = false) :
    Retained f₀ (pool'.copies h) j ∨ Returned f₀ (pool'.copies h) j := by
  have hinv : Cleanup.Tidy (pool'.copies h) ∧
      (Retained f₀ (pool'.copies h) j ∨
        Returned f₀ (pool'.copies h) j ∧ Unsettled (pool'.copies h)) := by
    refine steps.copies_induction (P := fun f => Cleanup.Tidy f ∧
      (Retained f₀ f j ∨ Returned f₀ f j ∧ Unsettled f)) ?_ ⟨htidy, .inl hretained⟩
    rintro f g change ⟨hf, hret | ⟨hret, hun⟩⟩
    · exact ⟨hf.change change, hret.change change hactive hf hentry⟩
    · obtain ⟨i, st, -, -, -, hi, -⟩ := id hret
      obtain rfl := change.eq_of_unsettled hactive hi hun
      exact ⟨hf, .inr ⟨hret, hun⟩⟩
  exact hinv.2.imp_right And.left

end Planning

namespace Planner

open Planning

variable {σ : Type} (lookup : Lookup σ) (now : Nat) (active : TargetsByJob) (planner : Planner)
  (pool : Pool) (explored : σ)

theorem isSettled_eq_false_of_moving {st : Status} (hst : st.state = .inTransfer) :
    st.isSettled = false := by
  simp [Status.isSettled, Status.isNormal, hst]

theorem retained_or_returned_plan {h : Fingerprint} (hactive : h ∈ active.hashes) {j : Nat}
    {st : Status} (hst : pool.copies h j = some st) (hmoving : st.state = .inTransfer) :
    Retained (pool.copies h) ((planner.plan lookup now active pool explored).pool.copies h) j ∨
      Returned (pool.copies h) ((planner.plan lookup now active pool explored).pool.copies h) j := by
  rw [plan_pool, Assignment.copies_build]
  refine (planned_steps lookup now active planner pool explored).retained_or_returned hactive
    (Cleanup.tidy_run active.hashes pool h) ⟨?_, Cleanup.copies_run active.hashes pool h j, ?_⟩ ?_
  · have hhas : Has (fun _ => true) (pool.copies h) := ⟨j, st, hst, rfl⟩
    have hcleaned := (Cleanup.run_steps 0 active.hashes pool).copies_induction
      (fun f g change => change.has (p := fun _ => true) (fun _ _ => rfl) (fun _ => rfl) hactive) hhas
    simpa [Has] using hcleaned
  · exact fun i a ha _ => Cleanup.eq_of_run ha
  · intro a ha
    obtain rfl : st = a := Option.some.inj (hst.symm.trans ha)
    exact isSettled_eq_false_of_moving hmoving

theorem copies_plan_of_inactive {h : Fingerprint} (hinactive : h ∉ active.hashes) (i : Nat) :
    (planner.plan lookup now active pool explored).pool.copies h i = none := by
  rw [plan_pool, Assignment.copies_build, Option.eq_none_iff_forall_ne_some]
  exact fun st hst => hinactive (mem_active_of_planned lookup now active planner pool explored hst)

theorem copies_plan_of_unsettled {h : Fingerprint} (hactive : h ∈ active.hashes) {k : Nat}
    {st : Status} (hst : pool.copies h k = some st) (hun : Unsettled (pool.copies h)) :
    (planner.plan lookup now active pool explored).pool.copies h = pool.copies h := by
  rw [plan_pool, Assignment.copies_build]
  exact (cycle_steps lookup now active planner pool explored).copies_eq_of_unsettled hactive hst hun

/-- A target that a shard lets go of stays as it is there, or goes, or comes back from another
shard on which it had settled, and only in the last case the shard owns it again.  Where it had
settled on no other shard, it stays if it is active and goes if not. -/
theorem plan_returns_iff {h : Fingerprint} {j : Nat} {st : Status} (hst : pool.copies h j = some st)
    (hmoving : st.state = .inTransfer) :
    let after := (planner.plan lookup now active pool explored).pool.copies h
    (after j = none ∨ after j = some st ∨ Returned (pool.copies h) after j) ∧
      ((∃ st', after j = some st' ∧ st'.state = .normal) ↔ Returned (pool.copies h) after j) ∧
      ((∀ i other, i ≠ j → pool.copies h i = some other → other.isSettled = false) →
        after j = if h ∈ active.hashes then some st else none) := by
  intro after
  have hcases : after j = none ∨ after j = some st ∨ Returned (pool.copies h) after j := by
    by_cases hactive : h ∈ active.hashes
    · rcases retained_or_returned_plan lookup now active planner pool explored hactive hst hmoving with
        hretained | hreturned
      · exact hretained.entry.imp_right fun heq => .inl (heq.trans hst)
      · exact .inr (.inr hreturned)
    · exact .inl (copies_plan_of_inactive lookup now active planner pool explored hactive j)
  refine ⟨hcases, ⟨?_, ?_⟩, fun hun => ?_⟩
  · rintro ⟨st', hst', hnormal⟩
    rcases hcases with hnone | hstays | hreturned
    · rw [hnone] at hst'
      cases hst'
    · obtain rfl : st = st' := Option.some.inj (hstays.symm.trans hst')
      rw [hmoving] at hnormal
      cases hnormal
    · exact hreturned
  · rintro ⟨i, other, -, -, -, -, hfresh⟩
    exact ⟨_, hfresh, rfl⟩
  · by_cases hactive : h ∈ active.hashes
    · have hall : Unsettled (pool.copies h) := by
        intro i other hother
        by_cases hij : i = j
        · subst hij
          obtain rfl : st = other := Option.some.inj (hst.symm.trans hother)
          exact isSettled_eq_false_of_moving hmoving
        · exact hun i other hij hother
      have hsame := copies_plan_of_unsettled lookup now active planner pool explored hactive hst hall
      rw [if_pos hactive, ← hst, ← hsame]
    · rw [if_neg hactive]
      exact copies_plan_of_inactive lookup now active planner pool explored hactive j

def shuttled : Pool :=
  [{ id := "s0", changeable := true, runtime := { headSeries := 185 },
     scraping := .ofList [(1, { health := .good, series := 30, scrapes := 5 })] },
   { id := "s1", changeable := true, runtime := { headSeries := 10 },
     scraping := .ofList [(1, { health := .good, series := 30, scrapes := 1, state := .inTransfer })] }]

theorem plan_returns_shuttled_target :
    let active : TargetsByJob := .ofList [("node", [{ hash := 1, job := "node", url := "" }])]
    let planner : Planner :=
      { policy := ⟨100, 16, .ofSecs 0, .ofSecs 15⟩, draws := { ahead := [] } }
    let lookup : Lookup Unit := ⟨fun _ _ e => (none, e), fun _ _ _ => none⟩
    let after := (planner.plan lookup 0 active shuttled ()).pool.copies 1
    (shuttled.copies 1 1 =
        some { health := .good, series := 30, scrapes := 1, state := .inTransfer } ∧
      ∃ st', after 1 = some st' ∧ st'.state = .normal) ∧ Returned (shuttled.copies 1) after 1 := by
  intro active planner lookup after
  have hbefore : shuttled.copies 1 1 =
      some { health := .good, series := 30, scrapes := 1, state := .inTransfer } := by
    decide +kernel
  have hafter : ∃ st', after 1 = some st' ∧ st'.state = .normal :=
    ⟨.fresh 30, by decide +kernel, rfl⟩
  obtain ⟨-, hiff, -⟩ := plan_returns_iff lookup 0 active planner shuttled () hbefore rfl
  exact ⟨⟨hbefore, hafter⟩, hiff.1 hafter⟩

/-- An entry in transfer can become normal. -/
theorem plan_turns_back :
    let active : TargetsByJob := .ofList [("node", [{ hash := 1, job := "node", url := "" }])]
    let planner : Planner :=
      { policy := ⟨100, 16, .ofSecs 0, .ofSecs 15⟩, draws := { ahead := [] } }
    let lookup : Lookup Unit := ⟨fun _ _ e => (none, e), fun _ _ _ => none⟩
    ¬ ∀ h j st st', shuttled.copies h j = some st → st.state = .inTransfer →
      (planner.plan lookup 0 active shuttled ()).pool.copies h j = some st' →
      st'.state ≠ .normal := by
  intro active planner lookup hall
  exact hall 1 1 { health := .good, series := 30, scrapes := 1, state := .inTransfer } (.fresh 30)
    (by decide +kernel) rfl (by decide +kernel) rfl

end Planner

/-! ## Targets without an owner -/

namespace Pool

/-- A shard lets go of the target, and no other one owns it. -/
def Orphaned (pool : Pool) (h : Fingerprint) : Prop :=
  ∃ i st, pool.copies h i = some st ∧ st.state = .inTransfer ∧
    ∀ (k : Nat) s other, k ≠ i → pool[k]? = some s → s.scraping.get? h = some other →
      other.state ≠ .normal

def FrozenOwner (pool : Pool) (h : Fingerprint) : Prop :=
  ∃ (k : Nat) (s : ShardState) (other : Status), pool[k]? = some s ∧ s.changeable = false ∧
    s.scraping.get? h = some other ∧ other.state = .normal

variable {pool : Pool} {h : Fingerprint}

theorem orphaned_iff :
    pool.Orphaned h ↔ ¬ Planning.Covered (pool.copies h) ∧ ¬ pool.FrozenOwner h := by
  constructor
  · rintro ⟨i, st, hst, hmoving, hnone⟩
    obtain ⟨s, hs, hc, hget⟩ := copies_eq_some_iff.1 hst
    constructor
    · intro hcov
      obtain ⟨k, other, hother, hnormal⟩ := hcov ⟨i, st, hst, by simp [Status.isMoving, hmoving]⟩
      rw [Status.isNormal_iff] at hnormal
      obtain ⟨t, ht, -, htget⟩ := copies_eq_some_iff.1 hother
      by_cases hki : k = i
      · subst hki
        rw [hst, Option.some.injEq] at hother
        rw [← hother, hmoving] at hnormal
        cases hnormal
      · exact hnone k t other hki ht htget hnormal
    · rintro ⟨k, t, other, ht, htc, htget, hnormal⟩
      have hki : k ≠ i := by
        rintro rfl
        rw [hs, Option.some.injEq] at ht
        rw [← ht, hc] at htc
        cases htc
      exact hnone k t other hki ht htget hnormal
  · rintro ⟨hcov, hfrozen⟩
    obtain ⟨⟨i, st, hst, hmoving⟩, hnone⟩ := Classical.not_imp.1 hcov
    refine ⟨i, st, hst, by simpa [Status.isMoving] using hmoving, fun k s other _ hs hget hnormal => ?_⟩
    cases hc : s.changeable with
    | false => exact hfrozen ⟨k, s, other, hs, hc, hget, hnormal⟩
    | true =>
        refine hnone ⟨k, other, ?_, Status.isNormal_iff.2 hnormal⟩
        rw [copies_eq_get? hs hc, hget]

theorem state_ne_of_all {k : Nat} {s : ShardState} {other : Status}
    (hall : pool.all (fun s => (s.scraping.get? h).all fun st => st.state ≠ .normal) = true)
    (hs : pool[k]? = some s) (hother : s.scraping.get? h = some other) :
    other.state ≠ .normal := by
  have hshard := List.all_eq_true.1 hall s (List.mem_of_getElem? hs)
  simpa [hother] using hshard

end Pool

namespace Planner

open Planning

variable {σ : Type} (lookup : Lookup σ) (now : Nat) (active : TargetsByJob) (planner : Planner)
  (pool : Pool) (explored : σ)

theorem frozenOwner_plan_iff (h : Fingerprint) :
    (planner.plan lookup now active pool explored).pool.FrozenOwner h ↔ pool.FrozenOwner h := by
  constructor
  · rintro ⟨k, s, other, hs, hc, hrest⟩
    exact ⟨k, s, other,
      (getElem?_plan_iff_of_frozen lookup now active planner pool explored hc).1 hs, hc, hrest⟩
  · rintro ⟨k, s, other, hs, hc, hrest⟩
    exact ⟨k, s, other,
      (getElem?_plan_iff_of_frozen lookup now active planner pool explored hc).2 hs, hc, hrest⟩

/-- A target that is let go of and has no owner has settled nowhere, so no step concerns it. -/
theorem copies_plan_of_not_covered {h : Fingerprint} (hactive : h ∈ active.hashes)
    (hcov : ¬ Covered (pool.copies h)) :
    (planner.plan lookup now active pool explored).pool.copies h = pool.copies h := by
  obtain ⟨⟨i, st, hst, -⟩, hnone⟩ := Classical.not_imp.1 hcov
  refine copies_plan_of_unsettled lookup now active planner pool explored hactive hst ?_
  intro k other hother
  refine Bool.eq_false_iff.2 fun hsettled => hnone ⟨k, other, hother, ?_⟩
  exact isNormal_of_isSettled hsettled

theorem covered_plan_iff {h : Fingerprint} (hactive : h ∈ active.hashes) :
    Covered ((planner.plan lookup now active pool explored).pool.copies h) ↔
      Covered (pool.copies h) := by
  constructor
  · intro hcov
    by_contra hno
    rw [copies_plan_of_not_covered lookup now active planner pool explored hactive hno] at hcov
    exact hno hcov
  · exact plan_copies_induction lookup now active planner pool explored
      fun f g change hf => change.covered hactive hf

/-- After a cycle just those active targets are let go of without an owner that were so before,
and the cycle has done nothing about them. -/
theorem plan_orphans_iff {h : Fingerprint} (hactive : h ∈ active.hashes) :
    let after := (planner.plan lookup now active pool explored).pool
    (after.Orphaned h ↔ pool.Orphaned h) ∧
      (pool.Orphaned h → after.copies h = pool.copies h) := by
  intro after
  constructor
  · rw [Pool.orphaned_iff, Pool.orphaned_iff,
      covered_plan_iff lookup now active planner pool explored hactive,
      frozenOwner_plan_iff lookup now active planner pool explored h]
  · intro horphaned
    exact copies_plan_of_not_covered lookup now active planner pool explored hactive
      (Pool.orphaned_iff.1 horphaned).1

def overloaded : Pool :=
  [{ id := "s0", changeable := true, runtime := { headSeries := 185 },
     scraping := .ofList [(1, { health := .good, series := 30, scrapes := 5 })] },
   { id := "s1", changeable := true, runtime := { headSeries := 50 } },
   { id := "s2", changeable := true, runtime := { headSeries := 60 } }]

def losing (i : Nat) (pool : Pool) : Pool :=
  pool.modify i fun s => { s with changeable := false, scraping := ∅ }

theorem plan_orphans_bereft_target :
    let active : TargetsByJob := .ofList [("node", [{ hash := 1, job := "node", url := "" }])]
    let planner : Planner :=
      { policy := ⟨100, 16, .ofSecs 0, .ofSecs 15⟩, draws := { ahead := [] } }
    let lookup : Lookup Unit := ⟨fun _ _ e => (none, e), fun _ _ _ => none⟩
    let first := planner.plan lookup 0 active overloaded ()
    let second := first.planner.plan lookup 15 active (losing 1 first.pool) ()
    (1 ∈ active.hashes ∧ (losing 1 first.pool).Orphaned 1) ∧
      second.pool.Orphaned 1 ∧ second.pool.copies 1 = (losing 1 first.pool).copies 1 := by
  intro active planner lookup first second
  have hactive : 1 ∈ active.hashes := by decide +kernel
  have horphaned : (losing 1 first.pool).Orphaned 1 := by
    refine ⟨0, { health := .good, series := 30, state := .inTransfer }, by decide +kernel, rfl,
      fun k s other _ hs hother => ?_⟩
    exact Pool.state_ne_of_all (by decide +kernel) hs hother
  obtain ⟨hiff, hsame⟩ :=
    plan_orphans_iff lookup 15 active first.planner (losing 1 first.pool) () hactive
  exact ⟨⟨hactive, horphaned⟩, hiff.2 horphaned, hsame horphaned⟩

/-- The target whose destination has been lost is not given to the shard that has room for it, and
no space is asked for. -/
theorem plan_leaves_orphan :
    let active : TargetsByJob := .ofList [("node", [{ hash := 1, job := "node", url := "" }])]
    let planner : Planner :=
      { policy := ⟨100, 16, .ofSecs 0, .ofSecs 15⟩, draws := { ahead := [] } }
    let lookup : Lookup Unit := ⟨fun _ _ e => (none, e), fun _ _ _ => none⟩
    let first := planner.plan lookup 0 active overloaded ()
    let second := first.planner.plan lookup 15 active (losing 1 first.pool) ()
    ¬ ∀ h ∈ active.hashes, ∀ i st, second.pool.copies h i = some st → st.state = .inTransfer →
      (∃ (k : Nat) (s : ShardState) (other : Status), k ≠ i ∧ second.pool[k]? = some s ∧
        s.scraping.get? h = some other ∧ other.state = .normal) ∨ 0 < second.needSpace := by
  intro active planner lookup first second hall
  have hleft : second.pool.copies 1 0 =
      some { health := .good, series := 30, state := .inTransfer } := by decide +kernel
  rcases hall 1 (by decide +kernel) 0 _ hleft rfl with ⟨k, s, other, -, hs, hother, hnormal⟩ | hneed
  · exact Pool.state_ne_of_all (by decide +kernel) hs hother hnormal
  · exact absurd hneed (by decide +kernel)

end Planner

end ScrapeFleet
