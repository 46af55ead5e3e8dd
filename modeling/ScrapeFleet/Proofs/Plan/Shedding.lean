import ScrapeFleet.Plan.Shedding
import ScrapeFleet.Proofs.Plan.Step

/-!
# Shedding moves settled targets

The candidates of a shard are read before any of them moves.  They stay what
they were until it is their turn, because a move only touches the target that
moves, so every transfer that is tried succeeds.
-/

namespace ScrapeFleet.Shedding

open Planning

variable {max expected : Int} {pool : Pool} {i : Nat}

theorem destination?_eq_some {series : Int} {j : Nat}
    (hj : destination? pool i series max = some j) :
    j ≠ i ∧ ∃ t, pool[j]? = some t ∧ t.accepts series max = true := by
  have hfound := List.find?_some hj
  simp only [Bool.and_eq_true, decide_eq_true_eq, Option.any_eq_true] at hfound
  exact hfound

/-- Shard `i` still has the candidates as they were read. -/
def HasCandidates (pool : Pool) (i : Nat) (candidates : List (Fingerprint × Int)) : Prop :=
  (candidates.map (·.1)).Nodup ∧ ∃ s, pool[i]? = some s ∧ s.changeable = true ∧
    ∀ e ∈ candidates, ∃ st, s.scraping.get? e.1 = some st ∧ st.isMovable = true ∧ st.series = e.2

theorem hasCandidates {s : ShardState} (hs : pool[i]? = some s) (hc : s.changeable = true) :
    HasCandidates pool i (candidates s) := by
  refine ⟨?_, s, hs, hc, ?_⟩
  · unfold candidates
    rw [List.map_map]
    exact (List.filter_sublist.map _).nodup s.scraping.nodup_keys
  · rintro ⟨h, series⟩ he
    obtain ⟨⟨k, st⟩, hmem, heq⟩ := List.mem_map.1 he
    obtain ⟨rfl, rfl⟩ := Prod.mk.inj heq
    rw [List.mem_filter] at hmem
    exact ⟨st, SortedMap.get?_eq_some_iff.2 hmem.1, hmem.2, rfl⟩

theorem HasCandidates.tail {e : Fingerprint × Int} {rest : List (Fingerprint × Int)}
    (hcand : HasCandidates pool i (e :: rest)) : HasCandidates pool i rest := by
  obtain ⟨hnodup, s, hs, hc, hall⟩ := hcand
  exact ⟨(List.nodup_cons.1 hnodup).2, s, hs, hc, fun e he => hall e (List.mem_cons_of_mem _ he)⟩

theorem HasCandidates.moved {h : Fingerprint} {series : Int} {rest : List (Fingerprint × Int)}
    (hcand : HasCandidates pool i ((h, series) :: rest)) {j : Nat} (hne : j ≠ i) :
    HasCandidates ((pool.modify i (·.release h)).modify j (·.receive h series)) i rest := by
  obtain ⟨hnodup, s, hs, hc, hall⟩ := hcand
  rw [List.map_cons, List.nodup_cons] at hnodup
  refine ⟨hnodup.2, s.release h, by simp [hs, hne], hc, ?_⟩
  intro e he
  obtain ⟨st, hget, hst⟩ := hall e (List.mem_cons_of_mem _ he)
  have hkey : e.1 ≠ h := fun heq => hnodup.1 (List.mem_map.2 ⟨e, he, heq⟩)
  exact ⟨st, by rw [ShardState.get?_release, if_neg hkey, hget], hst⟩

theorem isSettled_of_isMovable {st : Status} (hst : st.isMovable = true) :
    st.isSettled = true := by
  simp only [Status.isMovable, Bool.and_eq_true] at hst
  simp [Status.isSettled, Status.isNormal, hst.1.1, hst.1.2]

theorem shed_movesFrom {candidates : List (Fingerprint × Int)} (total : Int)
    (hcand : HasCandidates pool i candidates) :
    MovesFrom max i pool (shed max expected i candidates total pool).1 := by
  induction candidates generalizing pool total with
  | nil => exact .refl
  | cons e rest ih =>
      obtain ⟨h, series⟩ := e
      rw [shed]
      split
      · exact .refl
      cases hdest : destination? pool i series max with
      | none => exact ih total hcand.tail
      | some j =>
          obtain ⟨hne, t, ht, haccepts⟩ := destination?_eq_some hdest
          have hmoved := hcand.moved hne
          obtain ⟨-, s, hs, hc, hall⟩ := hcand
          obtain ⟨st, hget, hmovable, rfl⟩ := hall (h, series) List.mem_cons_self
          obtain ⟨pool', htransfer, move, rfl⟩ := transfer_eq_some (Ne.symm hne) hs hc hget
            (isSettled_of_isMovable hmovable) ht haccepts
          rw [Option.bind_some, htransfer]
          exact .head ⟨j, move⟩ (ih _ hmoved)

theorem shedShard_steps (active : List Fingerprint) (acc : Outcome) (i : Nat) :
    Steps max active acc.pool (shedShard max acc i).pool := by
  unfold shedShard
  cases hs : acc.pool[i]? with
  | none => exact .refl
  | some s =>
      cases hc : s.changeable with
      | false => simpa [hc] using .refl
      | true =>
          cases htier : Tier.of? s.head max with
          | none => simpa [hc, htier] using .refl
          | some tier =>
              simp only [hc, htier, if_true]
              exact (shed_movesFrom s.movableSeries (hasCandidates hs hc)).moves.steps active

theorem run_steps (active : List Fingerprint) (max : Int) (pool : Pool) :
    Steps max active pool (run max pool).pool := by
  exact Steps.foldl (shedShard max) (·.pool) (fun acc i _ => shedShard_steps active acc i)
    ⟨pool, 0, 0⟩

end ScrapeFleet.Shedding
