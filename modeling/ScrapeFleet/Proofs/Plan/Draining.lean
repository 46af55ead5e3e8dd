import ScrapeFleet.Plan.Scaling
import ScrapeFleet.Proofs.Plan.Step

/-!
# Draining one shard

A drain is planned on the loads of the earlier shards and then carried out one
move after another.  The loads that the plan keeps track of are the ones that
the moves bring about, so each planned move finds room and succeeds, and in the
end the drained shard owns nothing.
-/

namespace ScrapeFleet.Scaling

open Planning

variable {max : Int} {pool pool' : Pool} {i : Nat}

abbrev Drain (max : Int) (i : Nat) : Pool → Pool → Prop :=
  Relation.ReflTransGen fun p p' => ∃ j, j < i ∧ Move max i j p p'

/-! ## What a drain leaves alone -/

theorem Drain.moves (drain : Drain max i pool pool') : Moves max pool pool' :=
  Relation.ReflTransGen.mono (fun _ _ ⟨j, _, move⟩ => ⟨i, j, move⟩) _ _ drain

theorem Drain.getElem?_of_gt (drain : Drain max i pool pool') {k : Nat} (hk : i < k) :
    pool'[k]? = pool[k]? := by
  induction drain with
  | refl => rfl
  | tail _ step ih =>
      obtain ⟨j, hj, move⟩ := step
      rw [move.getElem?_of_ne (by omega) (by omega), ih]

theorem isEmpty_release (s : ShardState) (h : Fingerprint) :
    (s.release h).scraping.isEmpty = s.scraping.isEmpty := by
  simp [ShardState.release, SortedMap.modify, SortedMap.mapEntries, SortedMap.isEmpty]

theorem Drain.source (drain : Drain max i pool pool') {s : ShardState} (hs : pool[i]? = some s) :
    ∃ s', pool'[i]? = some s' ∧ s'.changeable = s.changeable ∧ s'.runtime = s.runtime ∧
      s'.scraping.isEmpty = s.scraping.isEmpty := by
  induction drain with
  | refl => exact ⟨s, hs, rfl, rfl, rfl⟩
  | tail _ step ih =>
      obtain ⟨s', hs', hchangeable, hruntime, hempty⟩ := ih
      obtain ⟨j, hj, move⟩ := step
      obtain ⟨h, hget⟩ := move.getElem?_source
      rw [hs', Option.map_some] at hget
      exact ⟨s'.release h, hget, hchangeable, hruntime, (isEmpty_release s' h).trans hempty⟩

theorem idleLongerThan_of_drain (drain : Drain max i pool pool') {s s' : ShardState}
    (hs : pool[i]? = some s) (hs' : pool'[i]? = some s') (maxIdle now : Nat) :
    s'.idleLongerThan maxIdle now = s.idleLongerThan maxIdle now := by
  obtain ⟨t, ht, -, hruntime, hempty⟩ := drain.source hs
  obtain rfl : t = s' := Option.some.inj (ht.symm.trans hs')
  simp only [ShardState.idleLongerThan, hruntime, hempty]

/-! ## The loads of the earlier shards -/

def earlier (pool : Pool) (i : Nat) : List (Bool × Int) :=
  (pool.take i).map fun e => (e.changeable, e.head)

theorem getElem?_earlier (pool : Pool) (i k : Nat) :
    (earlier pool i)[k]? = if k < i then pool[k]?.map fun e => (e.changeable, e.head) else none := by
  rw [earlier, List.getElem?_map, List.getElem?_take]
  split <;> simp

theorem earlier_moved {j : Nat} (hj : j < i) (h : Fingerprint) (series : Int) :
    earlier ((pool.modify i (·.release h)).modify j (·.receive h series)) i =
      (earlier pool i).modify j fun e => (e.1, Word.add e.2 series) := by
  apply List.ext_getElem?
  intro k
  rw [getElem?_earlier, List.getElem?_modify, List.getElem?_modify, List.getElem?_modify,
    getElem?_earlier]
  by_cases hk : k < i
  · have hik : i ≠ k := by omega
    by_cases hjk : j = k
    · cases hs : pool[k]? <;> simp [hk, hik, hjk, ShardState.receive]
    · simp [hk, hik, hjk]
  · have hjk : j ≠ k := by omega
    simp [hk, hjk]

theorem accepts_of_findIdx? {series : Int} {j : Nat}
    (hj : (earlier pool i).findIdx? (fun e => e.1 && decide (Word.add e.2 series < max)) = some j) :
    j < i ∧ ∃ t, pool[j]? = some t ∧ t.accepts series max = true := by
  obtain ⟨hlt, hfits, -⟩ := List.findIdx?_eq_some_iff_getElem.1 hj
  have hget := getElem?_earlier pool i j
  rw [List.getElem?_eq_getElem hlt] at hget
  split at hget
  · rename_i hji
    obtain ⟨t, ht, heq⟩ := Option.map_eq_some_iff.1 hget.symm
    refine ⟨hji, t, ht, ?_⟩
    rw [← heq] at hfits
    exact hfits
  · cases hget

/-! ## Carrying out a drain -/

/-- Shard `i` still has the entries as they were planned, and owns nothing else. -/
def Undrained (pool : Pool) (i : Nat) (entries : List (Fingerprint × Status)) : Prop :=
  (entries.map (·.1)).Nodup ∧ ∃ s, pool[i]? = some s ∧ s.changeable = true ∧
    (∀ e ∈ entries, s.scraping.get? e.1 = some e.2 ∧
      (e.2.isNormal = true → e.2.isSettled = true)) ∧
    ∀ h st, s.scraping.get? h = some st → st.isNormal = true → h ∈ entries.map (·.1)

theorem undrained {s : ShardState} (hs : pool[i]? = some s) (hc : s.changeable = true)
    (hsettled : isSettling s = false) : Undrained pool i s.scraping.entries := by
  refine ⟨s.scraping.nodup_keys, s, hs, hc, ?_, ?_⟩
  · intro e he
    refine ⟨SortedMap.get?_eq_some_iff.2 he, fun hnormal => ?_⟩
    have hstable := List.any_eq_false.1 hsettled e.2 (List.mem_map_of_mem he)
    simp only [Status.isNormal, decide_eq_true_eq] at hnormal
    simpa [Status.isSettled, Status.isNormal, hnormal] using hstable
  · intro h st hget _
    exact List.mem_map_of_mem (SortedMap.get?_eq_some_iff.1 hget)

theorem Undrained.skip {e : Fingerprint × Status} {rest : List (Fingerprint × Status)}
    (hun : Undrained pool i (e :: rest)) (he : e.2.isNormal = false) : Undrained pool i rest := by
  obtain ⟨hnodup, s, hs, hc, hentries, howned⟩ := hun
  refine ⟨(List.nodup_cons.1 hnodup).2, s, hs, hc,
    fun e he => hentries e (List.mem_cons_of_mem _ he), ?_⟩
  intro h st hget hnormal
  rcases List.mem_cons.1 (howned h st hget hnormal) with rfl | hmem
  · rw [(hentries e List.mem_cons_self).1, Option.some.injEq] at hget
    rw [hget, hnormal] at he
    cases he
  · exact hmem

theorem Undrained.moved {h : Fingerprint} {st : Status} {rest : List (Fingerprint × Status)}
    (hun : Undrained pool i ((h, st) :: rest)) {j : Nat} (hj : j < i) (series : Int) :
    Undrained ((pool.modify i (·.release h)).modify j (·.receive h series)) i rest := by
  obtain ⟨hnodup, s, hs, hc, hentries, howned⟩ := hun
  rw [List.map_cons, List.nodup_cons] at hnodup
  have hne : j ≠ i := by omega
  refine ⟨hnodup.2, s.release h, by simp [hs, hne], hc, ?_, ?_⟩
  · intro e he
    have hkey : e.1 ≠ h := fun heq => hnodup.1 (List.mem_map.2 ⟨e, he, heq⟩)
    rw [ShardState.get?_release, if_neg hkey]
    exact hentries e (List.mem_cons_of_mem _ he)
  · intro k other hget hnormal
    rw [ShardState.get?_release] at hget
    split at hget
    · obtain ⟨old, -, rfl⟩ := Option.map_eq_some_iff.1 hget
      cases hnormal
    · rename_i hkey
      rcases List.mem_cons.1 (howned k other hget hnormal) with heq | hmem
      · exact absurd heq hkey
      · exact hmem

theorem applyMoves_drain {entries : List (Fingerprint × Status)}
    {moves : List (Fingerprint × Nat)} (hun : Undrained pool i entries)
    (hmoves : drainMoves max entries (earlier pool i) = some moves) :
    Drain max i pool (applyMoves i moves pool).1 ∧ (applyMoves i moves pool).2 = moves.length ∧
      Undrained (applyMoves i moves pool).1 i [] := by
  induction entries generalizing pool moves with
  | nil =>
      obtain rfl : [] = moves := Option.some.inj hmoves
      exact ⟨.refl, rfl, hun⟩
  | cons e rest ih =>
      obtain ⟨h, st⟩ := e
      rw [drainMoves] at hmoves
      split at hmoves
      · rename_i hnormal
        obtain ⟨j, hj, hmoves⟩ := Option.bind_eq_some_iff.1 hmoves
        obtain ⟨later, hlater, hmoves⟩ := Option.bind_eq_some_iff.1 hmoves
        obtain rfl : (h, j) :: later = moves := Option.some.inj hmoves
        obtain ⟨hji, t, ht, haccepts⟩ := accepts_of_findIdx? hj
        have hmoved := hun.moved hji st.series
        obtain ⟨-, s, hs, hc, hentries, -⟩ := hun
        obtain ⟨hget, hsettled⟩ := hentries (h, st) List.mem_cons_self
        obtain ⟨pool', htransfer, move, rfl⟩ := transfer_eq_some (by omega) hs hc hget
          (hsettled (Status.isNormal_iff.2 hnormal)) ht haccepts
        -- The loads that the plan reckons with are those that the pool has after the move.
        rw [← earlier_moved hji h] at hlater
        obtain ⟨drain, hcount, hdrained⟩ := ih hmoved hlater
        rw [applyMoves, htransfer]
        exact ⟨.head ⟨j, hji, move⟩ drain, by simp [hcount], hdrained⟩
      · rename_i hnormal
        exact ih (hun.skip (Bool.eq_false_iff.2 fun hn => hnormal (Status.isNormal_iff.1 hn)))
          hmoves

theorem planDrain_drain {s : ShardState} {moves : List (Fingerprint × Nat)}
    (hs : pool[i]? = some s) (hc : s.changeable = true) (hsettled : isSettling s = false)
    (hmoves : planDrain max pool i s = some moves) :
    Drain max i pool (applyMoves i moves pool).1 ∧ (applyMoves i moves pool).2 = moves.length ∧
      Undrained (applyMoves i moves pool).1 i [] :=
  applyMoves_drain (undrained hs hc hsettled) hmoves

end ScrapeFleet.Scaling
