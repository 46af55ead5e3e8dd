import Mathlib.Logic.Relation
import ScrapeFleet.Plan.Cleanup
import ScrapeFleet.Proofs.Pool.Copies

/-!
# Steps of planning

Whatever a planning cycle does to its pool, it does by three kinds of steps:
one shard is cleaned, one target moves to another shard, or one target that no
shard holds is placed.  `Step` says when each of them may happen, and `Change`
what it means for the copies of one target.
-/

namespace ScrapeFleet

def Cleanup.cleaned (active : List Fingerprint) (pool : Pool) (i : Nat) (s : ShardState) : Pool :=
  pool.set i { s with scraping := s.scraping.filter (stays active pool i s.head) }

namespace Planning

/-! ## Steps on a pool -/

/-- A settled target moves from shard `i` to shard `j`, which has room for it. -/
inductive Move (max : Int) (i j : Nat) : Pool → Pool → Prop
  | intro {pool : Pool} {s t : ShardState} {h : Fingerprint} {st : Status} :
      i ≠ j → pool[i]? = some s → s.changeable = true → s.scraping.get? h = some st →
      st.isSettled = true → pool[j]? = some t → t.accepts st.series max = true →
      Move max i j pool ((pool.modify i (·.release h)).modify j (·.receive h st.series))

theorem transfer_eq_some {max : Int} {pool : Pool} {i j : Nat} {s t : ShardState}
    {h : Fingerprint} {st : Status} (hne : i ≠ j) (hs : pool[i]? = some s)
    (hc : s.changeable = true) (hget : s.scraping.get? h = some st)
    (hsettled : st.isSettled = true) (ht : pool[j]? = some t)
    (haccepts : t.accepts st.series max = true) :
    ∃ pool', pool.transfer i j h = some pool' ∧ Move max i j pool pool' ∧
      pool' = (pool.modify i (·.release h)).modify j (·.receive h st.series) := by
  have hnormal : st.state = .normal := by
    simp only [Status.isSettled, Bool.and_eq_true] at hsettled
    exact Status.isNormal_iff.1 hsettled.1
  refine ⟨_, ?_, .intro hne hs hc hget hsettled ht haccepts, rfl⟩
  simp [Pool.transfer, hs, hget, hnormal]

/-- One step of planning, with the maximum load `max` and the active targets. -/
inductive Step (max : Int) (active : List Fingerprint) : Pool → Pool → Prop
  /-- Drops the entries of a shard that are not to stay. -/
  | clean {pool : Pool} {i : Nat} {s : ShardState} :
      pool[i]? = some s → s.changeable = true →
      Step max active pool (Cleanup.cleaned active pool i s)
  | move {pool pool' : Pool} {i j : Nat} : Move max i j pool pool' → Step max active pool pool'
  /-- Gives an active target that no shard holds to a shard that has room for it. -/
  | place {pool : Pool} {j : Nat} {t : ShardState} {h : Fingerprint} {series : Int} :
      h ∈ active → pool.holds h = false → pool[j]? = some t → t.accepts series max = true →
      Step max active pool (pool.modify j (·.receive h series))

abbrev Steps (max : Int) (active : List Fingerprint) : Pool → Pool → Prop :=
  Relation.ReflTransGen (Step max active)

abbrev Moves (max : Int) : Pool → Pool → Prop :=
  Relation.ReflTransGen fun pool pool' => ∃ i j, Move max i j pool pool'

abbrev MovesFrom (max : Int) (i : Nat) : Pool → Pool → Prop :=
  Relation.ReflTransGen fun pool pool' => ∃ j, Move max i j pool pool'

variable {max : Int} {active : List Fingerprint} {pool pool' : Pool}

theorem MovesFrom.moves {i : Nat} (moves : MovesFrom max i pool pool') : Moves max pool pool' :=
  Relation.ReflTransGen.mono (fun _ _ ⟨j, move⟩ => ⟨i, j, move⟩) _ _ moves

theorem Moves.steps (active : List Fingerprint) (moves : Moves max pool pool') :
    Steps max active pool pool' :=
  Relation.ReflTransGen.mono (fun _ _ ⟨_, _, move⟩ => .move move) _ _ moves

theorem Move.length_eq {i j : Nat} (move : Move max i j pool pool') :
    pool'.length = pool.length := by
  cases move
  simp

theorem Move.getElem?_of_ne {i j k : Nat} (move : Move max i j pool pool') (hi : k ≠ i)
    (hj : k ≠ j) : pool'[k]? = pool[k]? := by
  cases move
  simp [Ne.symm hi, Ne.symm hj]

theorem Move.getElem?_source {i j : Nat} (move : Move max i j pool pool') :
    ∃ h, pool'[i]? = pool[i]?.map (·.release h) := by
  cases move with
  | @intro s t h st hne =>
      exact ⟨h, by simp [Ne.symm hne]⟩

theorem Step.length_eq (step : Step max active pool pool') : pool'.length = pool.length := by
  cases step with
  | clean => simp [Cleanup.cleaned]
  | move move => exact move.length_eq
  | place => simp

theorem Steps.length_eq (steps : Steps max active pool pool') : pool'.length = pool.length := by
  induction steps with
  | refl => rfl
  | tail _ step ih => rw [step.length_eq, ih]

theorem Steps.foldl {α β : Type} (f : β → α → β) (view : β → Pool) {l : List α}
    (hf : ∀ b, ∀ a ∈ l, Steps max active (view b) (view (f b a))) (b : β) :
    Steps max active (view b) (view (l.foldl f b)) := by
  induction l generalizing b with
  | nil => exact .refl
  | cons a l ih =>
      rw [List.foldl_cons]
      exact (hf b a List.mem_cons_self).trans
        (ih (fun b a ha => hf b a (List.mem_cons_of_mem _ ha)) (f b a))

theorem changeable_modify {f : ShardState → ShardState}
    (hf : ∀ s, (f s).changeable = s.changeable) (pool : Pool) (i k : Nat) :
    (List.modify pool i f)[k]?.map (·.changeable) = pool[k]?.map (·.changeable) := by
  rw [List.getElem?_modify]
  cases pool[k]? with
  | none => rfl
  | some s =>
      by_cases hik : i = k
      · simp [hik, hf]
      · simp [hik]

theorem Step.changeable_eq (step : Step max active pool pool') (i : Nat) :
    pool'[i]?.map (·.changeable) = pool[i]?.map (·.changeable) := by
  cases step with
  | @clean k s hs hc =>
      rw [Cleanup.cleaned]
      by_cases hki : k = i
      · subst hki
        rw [List.getElem?_set_self (List.getElem?_eq_some_iff.1 hs).1, hs]
        rfl
      · rw [List.getElem?_set_ne hki]
  | move move =>
      cases move
      rw [changeable_modify (fun s => s.changeable_receive _ _),
        changeable_modify (fun s => s.changeable_release _)]
  | place => exact changeable_modify (fun s => s.changeable_receive _ _) _ _ _

theorem Steps.changeable_eq (steps : Steps max active pool pool') (i : Nat) :
    pool'[i]?.map (·.changeable) = pool[i]?.map (·.changeable) := by
  induction steps with
  | refl => rfl
  | tail _ step ih => rw [step.changeable_eq, ih]

theorem Steps.changeableCount_eq (steps : Steps max active pool pool') :
    pool'.changeableCount = pool.changeableCount := by
  have hmap : pool'.map (·.changeable) = pool.map (·.changeable) := by
    refine List.ext_getElem? fun i => ?_
    rw [List.getElem?_map, List.getElem?_map, steps.changeable_eq i]
  have hcount := congrArg (List.countP id) hmap
  rwa [List.countP_map, List.countP_map] at hcount

/-- No step touches a shard that may not be changed. -/
theorem Step.getElem?_of_frozen {i : Nat} {s : ShardState} (step : Step max active pool pool')
    (hs : pool[i]? = some s) (hc : s.changeable = false) : pool'[i]? = some s := by
  have hother : ∀ {k : Nat} {t : ShardState}, pool[k]? = some t → t.changeable = true → k ≠ i := by
    rintro k t ht htc rfl
    obtain rfl : t = s := Option.some.inj (ht.symm.trans hs)
    rw [hc] at htc
    cases htc
  cases step with
  | clean ht htc => rw [Cleanup.cleaned, List.getElem?_set_ne (hother ht htc), hs]
  | move move =>
      cases move with
      | intro hne ht htc hget hsettled hdest haccepts =>
          have hsource := hother ht htc
          have hdest := hother hdest (ShardState.changeable_of_accepts haccepts)
          simp [hsource, hdest, hs]
  | place hactive hholds ht haccepts =>
      have hdest := hother ht (ShardState.changeable_of_accepts haccepts)
      simp [hdest, hs]

theorem Steps.getElem?_of_frozen {i : Nat} {s : ShardState} (steps : Steps max active pool pool')
    (hs : pool[i]? = some s) (hc : s.changeable = false) : pool'[i]? = some s := by
  induction steps with
  | refl => exact hs
  | tail _ step ih => exact step.getElem?_of_frozen ih hc

/-! ## Steps for one target -/

/-- What a step does to the copies of one target, which is `wanted` if it is active. -/
inductive Change (wanted : Prop) : (Nat → Option Status) → (Nat → Option Status) → Prop
  | keep {f : Nat → Option Status} : Change wanted f f
  /-- A copy of a wanted target is only dropped in favour of a settled one. -/
  | drop {f : Nat → Option Status} {i : Nat} :
      (wanted → ∃ j other, j ≠ i ∧ f j = some other ∧ other.isSettled = true) →
      Change wanted f (Function.update f i none)
  | move {f : Nat → Option Status} {i j : Nat} {st : Status} :
      i ≠ j → f i = some st → st.isSettled = true →
      Change wanted f
        (Function.update (Function.update f i (some st.released)) j (some (.fresh st.series)))
  | place {f : Nat → Option Status} {j : Nat} {series : Int} :
      wanted → (∀ k, f k = none) → Change wanted f (Function.update f j (some (.fresh series)))

theorem exists_settled_of_losesDuplicate {i : Nat} {head : Int} {h : Fingerprint} {st : Status}
    (hlose : Cleanup.losesDuplicate pool i head h st = true) :
    ∃ j other, j ≠ i ∧ pool.copies h j = some other ∧ other.isSettled = true := by
  simp only [Cleanup.losesDuplicate, Bool.and_eq_true, List.any_eq_true] at hlose
  obtain ⟨-, ⟨t, j⟩, hmem, ⟨hne, hchangeable⟩, hwins⟩ := hlose
  have ht : pool[j]? = some t := by
    simpa using List.mem_zipIdx_iff_getElem?.1 hmem
  cases hget : t.scraping.get? h with
  | none => simp [hget] at hwins
  | some other =>
      simp only [hget, Bool.and_eq_true] at hwins
      obtain ⟨hstable, hbeats⟩ := hwins
      have hnormal : other.isNormal = true := by
        unfold Cleanup.beats at hbeats
        split at hbeats
        · exact Status.isNormal_iff.2 ‹_›
        · exact Status.isNormal_iff.2 ‹_›
        · cases hbeats
      refine ⟨j, other, by simpa using hne, ?_, by simp [Status.isSettled, hnormal, hstable]⟩
      rw [Pool.copies_eq_get? ht hchangeable, hget]

theorem change_of_cleaned {i : Nat} {s : ShardState} (hs : pool[i]? = some s)
    (hc : s.changeable = true) (h : Fingerprint) :
    Change (h ∈ active) (pool.copies h) ((Cleanup.cleaned active pool i s).copies h) := by
  rw [Cleanup.cleaned, Pool.copies_set (List.getElem?_eq_some_iff.1 hs).1, ShardState.copy?_filter hc,
    ← Pool.copies_eq_copy? hs]
  cases hcopy : pool.copies h i with
  | none =>
      rw [Option.filter_none, ← hcopy, Function.update_eq_self]
      exact .keep
  | some st =>
      by_cases hstays : Cleanup.stays active pool i s.head h st = true
      · rw [Option.filter_some, if_pos hstays, ← hcopy, Function.update_eq_self]
        exact .keep
      · rw [Option.filter_some, if_neg hstays]
        -- What is wanted and does not stay has lost against another copy.
        apply Change.drop
        intro hactive
        simp only [Cleanup.stays, Bool.and_eq_true, List.contains_iff_mem, hactive,
          true_and, Bool.not_eq_true', Bool.not_eq_false] at hstays
        exact exists_settled_of_losesDuplicate hstays

theorem Move.change {wanted : Prop} {i j : Nat} (move : Move max i j pool pool')
    (h : Fingerprint) : Change wanted (pool.copies h) (pool'.copies h) := by
  obtain ⟨hne, hs, hc, hget, hsettled, ht, haccepts⟩ := move
  rename_i s t k st
  rw [Pool.copies_move hne ht (ShardState.changeable_of_accepts haccepts)]
  by_cases hk : h = k
  · subst hk
    have hcopy : pool.copies h i = some st := by rw [Pool.copies_eq_get? hs hc, hget]
    rw [if_pos rfl, hcopy, Option.map_some]
    exact .move hne hcopy hsettled
  · rw [if_neg hk]
    exact .keep

theorem Step.change (step : Step max active pool pool') (h : Fingerprint) :
    Change (h ∈ active) (pool.copies h) (pool'.copies h) := by
  cases step with
  | clean hs hc => exact change_of_cleaned hs hc h
  | move move => exact move.change h
  | @place j t k series hactive hholds ht haccepts =>
      rw [Pool.copies_receive ht (ShardState.changeable_of_accepts haccepts)]
      by_cases hk : h = k
      · subst hk
        rw [if_pos rfl]
        exact .place hactive (Pool.copies_eq_none_of_holds hholds)
      · rw [if_neg hk]
        exact .keep

/-- What every change for a target preserves holds after any number of steps. -/
theorem Steps.copies_induction {h : Fingerprint} {P : (Nat → Option Status) → Prop}
    (hchange : ∀ f g, Change (h ∈ active) f g → P f → P g)
    (steps : Steps max active pool pool') (hP : P (pool.copies h)) : P (pool'.copies h) := by
  induction steps with
  | refl => exact hP
  | tail _ step ih => exact hchange _ _ (step.change h) ih

theorem Steps.copies_eq_none {h : Fingerprint} (hinactive : h ∉ active)
    (steps : Steps max active pool pool') (hnone : ∀ i, pool.copies h i = none) (i : Nat) :
    pool'.copies h i = none := by
  revert i
  refine steps.copies_induction (P := fun f => ∀ i, f i = none) (fun f g change hf i => ?_) hnone
  cases change with
  | keep => exact hf i
  | @drop k _ =>
      by_cases hik : i = k
      · rw [hik, Function.update_self]
      · rw [Function.update_of_ne hik, hf i]
  | move _ hst =>
      rw [hf] at hst
      cases hst
  | place hactive => exact absurd hactive hinactive

/-! ## Targets that have settled nowhere -/

def Unsettled (f : Nat → Option Status) : Prop :=
  ∀ i st, f i = some st → st.isSettled = false

/-- Only a settled copy lets a wanted target be dropped or moved, and only one that no shard
holds is placed. -/
theorem Change.eq_of_unsettled {wanted : Prop} {f g : Nat → Option Status}
    (change : Change wanted f g) (hwanted : wanted) {k : Nat} {st : Status} (hst : f k = some st)
    (hun : Unsettled f) : g = f := by
  cases change with
  | keep => rfl
  | drop hother =>
      obtain ⟨j, other, -, hj, hsettled⟩ := hother hwanted
      rw [hun j other hj] at hsettled
      cases hsettled
  | move _ hi hsettled =>
      rw [hun _ _ hi] at hsettled
      cases hsettled
  | place _ hnone =>
      rw [hnone k] at hst
      cases hst

theorem Steps.copies_eq_of_unsettled {h : Fingerprint} {k : Nat} {st : Status}
    (steps : Steps max active pool pool') (hactive : h ∈ active) (hst : pool.copies h k = some st)
    (hun : Unsettled (pool.copies h)) : pool'.copies h = pool.copies h := by
  refine steps.copies_induction (P := fun f => f = pool.copies h) (fun f g change hf => ?_) rfl
  subst hf
  exact change.eq_of_unsettled hactive hst hun

end Planning

end ScrapeFleet
