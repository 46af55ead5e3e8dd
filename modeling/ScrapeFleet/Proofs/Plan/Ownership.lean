import ScrapeFleet.Proofs.Plan.Cycle

/-!
# Ownership through a planning cycle

A cycle cleans its pool and then moves and places targets.  Cleaning leaves at
most one settled copy of a target, and no later step adds an owner beside
another one.  No step takes a wanted target away without leaving it with an
owner: a copy is dropped only in favour of a settled one, and a target that a
shard lets go of has just got a new owner.
-/

namespace ScrapeFleet

/-! ## Counting copies -/

namespace Planning

variable {max : Int} {active : List Fingerprint} {pool pool' : Pool} {wanted : Prop}
  {f g : Nat → Option Status} {p : Status → Bool}

private theorem card_drop_le (f : Nat → Option Status) (p : Status → Bool) (i n : Nat) :
    ((Finset.range n).filter fun k => (Function.update f i none k).any p).card ≤
      ((Finset.range n).filter fun k => (f k).any p).card := by
  apply Finset.card_le_card
  intro k hk
  simp only [Finset.mem_filter] at hk ⊢
  by_cases hki : k = i
  · simp [hki] at hk
  · rwa [Function.update_of_ne hki] at hk

private theorem card_move_le {i j n : Nat} {released : Status} (received : Option Status)
    (hlt : i < n) (hi : (f i).any p = true) (hreleased : p released = false) :
    ((Finset.range n).filter fun k =>
        (Function.update (Function.update f i (some released)) j received k).any p).card ≤
      ((Finset.range n).filter fun k => (f k).any p).card := by
  have hmem : i ∈ (Finset.range n).filter fun k => (f k).any p := by
    simp [hi, hlt]
  have hsub : ((Finset.range n).filter fun k =>
      (Function.update (Function.update f i (some released)) j received k).any p) ⊆
      insert j (((Finset.range n).filter fun k => (f k).any p).erase i) := by
    intro k hk
    simp only [Finset.mem_filter, Finset.mem_insert, Finset.mem_erase] at hk ⊢
    by_cases hkj : k = j
    · exact .inl hkj
    · rw [Function.update_of_ne hkj] at hk
      by_cases hki : k = i
      · simp [hki, hreleased] at hk
      · rw [Function.update_of_ne hki] at hk
        exact .inr ⟨hki, hk⟩
  -- The copy that is released makes up for the one that is received.
  calc _ ≤ _ := Finset.card_le_card hsub
    _ ≤ _ := Finset.card_insert_le _ _
    _ = _ := Finset.card_erase_add_one hmem

private theorem card_place_le {j n : Nat} (received : Option Status) (hnone : ∀ k, f k = none) :
    ((Finset.range n).filter fun k => (Function.update f j received k).any p).card ≤ 1 := by
  have honly : ∀ k, (Function.update f j received k).any p = true → k = j := by
    intro k hk
    by_contra hkj
    rw [Function.update_of_ne hkj, hnone] at hk
    cases hk
  rw [Finset.card_le_one]
  intro a ha b hb
  simp only [Finset.mem_filter] at ha hb
  rw [honly a ha.2, honly b hb.2]

/-- A change adds no copy of a kind that is given up by a move, unless there was none. -/
theorem Change.card_le (hsettled : ∀ st : Status, st.isSettled = true → p st = true)
    (hreleased : ∀ st : Status, p st.released = false) (change : Change wanted f g) {n : Nat}
    (hlt : ∀ i st, f i = some st → i < n) :
    ((Finset.range n).filter fun i => (g i).any p).card ≤
      Nat.max 1 ((Finset.range n).filter fun i => (f i).any p).card := by
  cases change with
  | keep => exact Nat.le_max_right _ _
  | @drop i _ => exact (card_drop_le f p i n).trans (Nat.le_max_right _ _)
  | @move i j st hne hst hset =>
      have hi : (f i).any p = true := by simp [hst, hsettled st hset]
      exact (card_move_le _ (hlt i st hst) hi (hreleased st)).trans (Nat.le_max_right _ _)
  | @place j series _ hnone => exact (card_place_le _ hnone).trans (Nat.le_max_left _ _)

theorem Steps.countCopies_le (hsettled : ∀ st : Status, st.isSettled = true → p st = true)
    (hreleased : ∀ st : Status, p st.released = false) (steps : Steps max active pool pool')
    (h : Fingerprint) : pool'.countCopies p h ≤ Nat.max 1 (pool.countCopies p h) := by
  induction steps with
  | refl => exact Nat.le_max_right _ _
  | tail _ step ih =>
      refine le_trans ?_ (Nat.max_le.2 ⟨Nat.le_max_left _ _, ih⟩)
      rw [Pool.countCopies_eq_card, Pool.countCopies_eq_card, step.length_eq]
      exact (step.change h).card_le hsettled hreleased fun i st => Pool.lt_length_of_copies

/-! ## Keeping copies -/

def Has (p : Status → Bool) (f : Nat → Option Status) : Prop :=
  ∃ i st, f i = some st ∧ p st = true

theorem Change.has (hsettled : ∀ st : Status, st.isSettled = true → p st = true)
    (hfresh : ∀ series, p (.fresh series) = true) (hwanted : wanted) (change : Change wanted f g)
    (hhas : Has p f) : Has p g := by
  cases change with
  | keep => exact hhas
  | @drop i hother =>
      obtain ⟨k, st, hst, hp⟩ := hhas
      by_cases hki : k = i
      · obtain ⟨j, other, hji, hj, hset⟩ := hother hwanted
        exact ⟨j, other, by rw [Function.update_of_ne hji, hj], hsettled other hset⟩
      · exact ⟨k, st, by rw [Function.update_of_ne hki, hst], hp⟩
  | @move i j st => exact ⟨j, _, Function.update_self .., hfresh _⟩
  | @place j series => exact ⟨j, _, Function.update_self .., hfresh _⟩

theorem isNormal_of_isSettled {st : Status} (hst : st.isSettled = true) :
    st.isNormal = true := by
  simp only [Status.isSettled, Bool.and_eq_true] at hst
  exact hst.1

/-- What is let go of has an owner. -/
def Covered (f : Nat → Option Status) : Prop :=
  Has Status.isMoving f → Has Status.isNormal f

theorem Change.covered (hwanted : wanted) (change : Change wanted f g) (hcov : Covered f) :
    Covered g := by
  have howner : Has Status.isNormal f → Has Status.isNormal g :=
    change.has (fun _ => isNormal_of_isSettled) (fun _ => rfl) hwanted
  intro hmoving
  cases change with
  | keep => exact hcov hmoving
  | @drop i _ =>
      obtain ⟨k, st, hst, hp⟩ := hmoving
      by_cases hki : k = i
      · simp [hki] at hst
      · rw [Function.update_of_ne hki] at hst
        exact howner (hcov ⟨k, st, hst, hp⟩)
  | @move i j st => exact ⟨j, _, Function.update_self .., rfl⟩
  | @place j series => exact ⟨j, _, Function.update_self .., rfl⟩

end Planning

/-! ## One cycle -/

namespace Pool

variable (pool : Pool) (h : Fingerprint)

def Held : Prop := ∃ i st, pool.copies h i = some st

def Owned : Prop := ∃ i st, pool.copies h i = some st ∧ st.state = .normal

/-- Wherever the target is let go of, another shard scrapes it as its own. -/
def HandedOver : Prop :=
  ∀ i st, pool.copies h i = some st → st.state = .inTransfer →
    ∃ j other, j ≠ i ∧ pool.copies h j = some other ∧ other.state = .normal

variable {pool h}

theorem held_iff : pool.Held h ↔ Planning.Has (fun _ => true) (pool.copies h) := by
  simp [Held, Planning.Has]

theorem owned_iff : pool.Owned h ↔ Planning.Has Status.isNormal (pool.copies h) := by
  simp [Owned, Planning.Has, Status.isNormal]

theorem owned_iff_owners : pool.Owned h ↔ 0 < pool.owners h := by
  rw [owned_iff, owners, countCopies, List.countP_pos_iff]
  constructor
  · rintro ⟨i, st, hst, hnormal⟩
    obtain ⟨s, hs, -⟩ := copies_eq_some_iff.1 hst
    rw [copies_eq_copy? hs] at hst
    exact ⟨s, List.mem_of_getElem? hs, by rw [ShardState.has, hst]; exact hnormal⟩
  · rintro ⟨s, hmem, hhas⟩
    obtain ⟨i, hs⟩ := List.mem_iff_getElem?.1 hmem
    obtain ⟨st, hst, hnormal⟩ := (Option.any_eq_true _ _).1 hhas
    exact ⟨i, st, by rw [copies_eq_copy? hs, hst], hnormal⟩

theorem handedOver_iff : pool.HandedOver h ↔ Planning.Covered (pool.copies h) := by
  constructor
  · rintro hover ⟨i, st, hst, hmoving⟩
    obtain ⟨j, other, -, hother, hnormal⟩ := hover i st hst (by simpa [Status.isMoving] using hmoving)
    exact ⟨j, other, hother, Status.isNormal_iff.2 hnormal⟩
  · intro hcov i st hst hmoving
    obtain ⟨j, other, hother, hnormal⟩ := hcov ⟨i, st, hst, by simp [Status.isMoving, hmoving]⟩
    refine ⟨j, other, ?_, hother, Status.isNormal_iff.1 hnormal⟩
    rintro rfl
    rw [hst, Option.some.injEq] at hother
    rw [← hother, Status.isNormal_iff, hmoving] at hnormal
    cases hnormal

end Pool

namespace Planner

open Planning

variable {σ : Type} (lookup : Lookup σ) (now : Nat) (active : TargetsByJob) (planner : Planner)
  (pool : Pool) (explored : σ)

theorem plan_copies_induction {P : (Nat → Option Status) → Prop} {h : Fingerprint}
    (hchange : ∀ f g, Change (h ∈ active.hashes) f g → P f → P g) (hP : P (pool.copies h)) :
    P ((planner.plan lookup now active pool explored).pool.copies h) := by
  rw [plan_pool, Assignment.copies_build]
  exact (cycle_steps lookup now active planner pool explored).copies_induction hchange hP

theorem owners_plan_le (h : Fingerprint) :
    (planner.plan lookup now active pool explored).pool.owners h ≤ Nat.max 1 (pool.owners h) := by
  rw [plan_pool, Pool.owners, Assignment.countCopies_build]
  exact (cycle_steps lookup now active planner pool explored).countCopies_le
    (fun _ => isNormal_of_isSettled) (fun _ => rfl) h

theorem owned_plan {h : Fingerprint} (hactive : h ∈ active.hashes) (howned : pool.Owned h) :
    (planner.plan lookup now active pool explored).pool.Owned h := by
  rw [Pool.owned_iff] at howned ⊢
  exact plan_copies_induction lookup now active planner pool explored
    (fun _ _ change => change.has (fun _ => isNormal_of_isSettled) (fun _ => rfl) hactive) howned

/-- After a cycle a target has at most one settled owner, and not more owners than before
unless it had none. -/
theorem plan_ownership (h : Fingerprint) :
    (planner.plan lookup now active pool explored).pool.countCopies Status.isSettled h ≤ 1 ∧
      (planner.plan lookup now active pool explored).pool.owners h ≤
        Nat.max 1 (pool.owners h) := by
  refine ⟨?_, owners_plan_le lookup now active planner pool explored h⟩
  rw [plan_pool, Assignment.countCopies_build]
  calc _ ≤ Nat.max 1 ((Cleanup.run active.hashes pool).1.countCopies Status.isSettled h) :=
        (planned_steps lookup now active planner pool explored).countCopies_le (fun _ => id)
          (fun _ => rfl) h
    _ = 1 := Nat.max_eq_left (Cleanup.settled_run_le_one active.hashes pool h)

/-- A cycle takes no active target away from the pool, leaves it with an owner if it had one,
and hands over what it lets go of. -/
theorem plan_keeps_active {h : Fingerprint} (hactive : h ∈ active.hashes) :
    (pool.Held h → (planner.plan lookup now active pool explored).pool.Held h) ∧
      (pool.Owned h → (planner.plan lookup now active pool explored).pool.Owned h) ∧
      (pool.HandedOver h → (planner.plan lookup now active pool explored).pool.HandedOver h) := by
  refine ⟨fun hheld => ?_, owned_plan lookup now active planner pool explored hactive,
    fun hover => ?_⟩
  · rw [Pool.held_iff] at hheld ⊢
    exact plan_copies_induction lookup now active planner pool explored
      (fun _ _ change => change.has (fun _ _ => rfl) (fun _ => rfl) hactive) hheld
  · rw [Pool.handedOver_iff] at hover ⊢
    exact plan_copies_induction lookup now active planner pool explored
      (fun _ _ change => change.covered hactive) hover

def contested : Pool :=
  [{ id := "s0", changeable := true, runtime := { headSeries := 185 },
     scraping := .ofList [(1, { health := .good, series := 30, scrapes := 5 })] },
   { id := "s1", changeable := true, runtime := { headSeries := 80 },
     scraping := .ofList [(1, { health := .good, series := 30, scrapes := 5 })] },
   { id := "s2", changeable := true, runtime := { headSeries := 10 },
     scraping := .ofList [(1, { series := 30, scrapes := 5, state := .inTransfer })] }]

theorem plan_keeps_contested_target :
    let active : TargetsByJob := .ofList [("node", [{ hash := 1, job := "node", url := "" }])]
    let planner : Planner :=
      { policy := ⟨100, 16, .ofSecs 60, .ofSecs 15⟩, draws := { ahead := [] } }
    let lookup : Lookup Unit := ⟨fun _ _ e => (none, e), fun _ _ _ => none⟩
    let after := (planner.plan lookup 1000 active contested ()).pool
    (1 ∈ active.hashes ∧ contested.Held 1 ∧ contested.Owned 1 ∧ contested.HandedOver 1) ∧
      after.Held 1 ∧ after.Owned 1 ∧ after.HandedOver 1 := by
  intro active planner lookup after
  have hactive : 1 ∈ active.hashes := by decide +kernel
  have hcopy : contested.copies 1 1 = some { health := .good, series := 30, scrapes := 5 } := by
    decide +kernel
  have hheld : contested.Held 1 := ⟨1, _, hcopy⟩
  have howned : contested.Owned 1 := ⟨1, _, hcopy, rfl⟩
  have hover : contested.HandedOver 1 :=
    Pool.handedOver_iff.2 fun _ => ⟨1, _, hcopy, rfl⟩
  obtain ⟨hheld', howned', hover'⟩ := plan_keeps_active lookup 1000 active planner contested () hactive
  exact ⟨⟨hactive, hheld, howned, hover⟩, hheld' hheld, howned' howned, hover' hover⟩

end Planner

end ScrapeFleet
