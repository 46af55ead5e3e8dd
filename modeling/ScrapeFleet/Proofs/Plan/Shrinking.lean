import ScrapeFleet.Proofs.Plan.Draining

/-!
# What a shrink cuts off

The walk from the end of the pool counts idle shards and passes over drained
ones, but it only counts: which shards go is decided by the number alone.  So
the shards that are cut off own nothing, because the walk has passed all of
them, but they are the idle ones only if no idle shard was counted after the
walk had passed another one.
-/

namespace ScrapeFleet.Scaling

open Planning

variable {max : Int} {maxIdle now : Nat} {pool : Pool} {i : Nat}

/-! ## One step of the walk -/

/-- What the walk does at a shard. -/
inductive Verdict where
  | ends
  | counts
  | drains (moves : List (Fingerprint × Nat))
  deriving DecidableEq, Repr

def verdict (max : Int) (maxIdle now : Nat) (pool : Pool) (i : Nat) : Verdict :=
  match pool[i]? with
  | none => .ends
  | some s =>
      if !s.changeable then .ends
      else if s.idleLongerThan maxIdle now then .counts
      else if isSettling s then .ends
      else
        match planDrain max pool i s with
        | none => .ends
        | some moves => .drains moves

theorem verdict_eq_counts (hcounts : verdict max maxIdle now pool i = .counts) :
    ∃ s, pool[i]? = some s ∧ s.changeable = true ∧ s.idleLongerThan maxIdle now = true := by
  unfold verdict at hcounts
  split at hcounts
  · cases hcounts
  · rename_i s hs
    cases hc : s.changeable <;> cases hidle : s.idleLongerThan maxIdle now <;>
      simp only [hc, hidle, Bool.not_true, Bool.not_false, if_true, if_false,
        Bool.false_eq_true, reduceCtorEq] at hcounts
    · split at hcounts
      · cases hcounts
      · split at hcounts <;> cases hcounts
    · exact ⟨s, hs, hc, hidle⟩

theorem verdict_eq_drains {moves : List (Fingerprint × Nat)}
    (hdrains : verdict max maxIdle now pool i = .drains moves) :
    ∃ s, pool[i]? = some s ∧ s.changeable = true ∧ s.idleLongerThan maxIdle now = false ∧
      isSettling s = false ∧ planDrain max pool i s = some moves := by
  unfold verdict at hdrains
  split at hdrains
  · cases hdrains
  · rename_i s hs
    cases hc : s.changeable <;> cases hidle : s.idleLongerThan maxIdle now <;>
      simp only [hc, hidle, Bool.not_true, Bool.not_false, if_true, if_false,
        Bool.false_eq_true, reduceCtorEq] at hdrains
    split at hdrains
    · cases hdrains
    · rename_i hsettled
      split at hdrains
      · cases hdrains
      · rename_i moves' hmoves
        obtain rfl : moves' = moves := by simpa using hdrains
        exact ⟨s, hs, hc, hidle, Bool.eq_false_iff.2 hsettled, hmoves⟩

theorem walk_succ (max : Int) (maxIdle now i : Nat) (acc : Shrunk) :
    walk max maxIdle now (i + 1) acc =
      match verdict max maxIdle now acc.pool i with
      | .ends => acc
      | .counts => walk max maxIdle now i { acc with desired := acc.desired - 1 }
      | .drains moves => walk max maxIdle now i
          { acc with
            pool := (applyMoves i moves acc.pool).1
            transfers := acc.transfers + (applyMoves i moves acc.pool).2 } := by
  cases hs : acc.pool[i]? with
  | none => simp [walk, verdict, hs]
  | some s =>
      cases hc : s.changeable with
      | false => simp [walk, verdict, hs, hc]
      | true =>
          cases hidle : s.idleLongerThan maxIdle now with
          | true => simp [walk, verdict, hs, hc, hidle]
          | false =>
              cases hsettling : isSettling s with
              | true => simp [walk, verdict, hs, hc, hidle, hsettling]
              | false =>
                  cases hmoves : planDrain max acc.pool i s <;>
                    simp [walk, verdict, hs, hc, hidle, hsettling, hmoves]

theorem drain_of_verdict {moves : List (Fingerprint × Nat)}
    (hdrains : verdict max maxIdle now pool i = .drains moves) :
    Drain max i pool (applyMoves i moves pool).1 ∧
      Undrained (applyMoves i moves pool).1 i [] := by
  obtain ⟨s, hs, hc, -, hsettled, hmoves⟩ := verdict_eq_drains hdrains
  obtain ⟨drain, -, hdrained⟩ := planDrain_drain hs hc hsettled hmoves
  exact ⟨drain, hdrained⟩

/-! ## The whole walk -/

theorem walk_moves (n : Nat) (acc : Shrunk) :
    Moves max acc.pool (walk max maxIdle now n acc).pool := by
  induction n generalizing acc with
  | zero => exact .refl
  | succ i ih =>
      cases hverdict : verdict max maxIdle now acc.pool i <;>
        simp only [walk_succ, hverdict]
      case ends => exact .refl
      case counts => exact ih { acc with desired := acc.desired - 1 }
      case drains moves =>
        exact (drain_of_verdict hverdict).1.moves.trans
          (ih { acc with pool := (applyMoves i moves acc.pool).1, transfers := _ })

theorem walk_getElem?_of_le (n : Nat) (acc : Shrunk) {k : Nat} (hk : n ≤ k) :
    (walk max maxIdle now n acc).pool[k]? = acc.pool[k]? := by
  induction n generalizing acc with
  | zero => rfl
  | succ i ih =>
      cases hverdict : verdict max maxIdle now acc.pool i <;>
        simp only [walk_succ, hverdict]
      case counts => rw [ih _ (by omega)]
      case drains moves =>
        rw [ih _ (by omega)]
        exact (drain_of_verdict hverdict).1.getElem?_of_gt (by omega)

theorem walk_desired_le (max : Int) (maxIdle now n : Nat) (acc : Shrunk) :
    (walk max maxIdle now n acc).desired ≤ acc.desired := by
  induction n generalizing acc with
  | zero => exact Nat.le_refl _
  | succ i ih =>
      cases hverdict : verdict max maxIdle now acc.pool i <;>
        simp only [walk_succ, hverdict]
      case ends => exact Nat.le_refl _
      case counts => exact (ih _).trans (Nat.sub_le _ _)
      case drains => exact ih _

/-! ## Shards that are cut off -/

def OwnsNothing (s : ShardState) : Prop :=
  s.changeable = true ∧ ∀ h st, s.scraping.get? h = some st → st.isNormal = false

theorem ownsNothing_of_idle {s : ShardState} (hc : s.changeable = true)
    (hidle : s.idleLongerThan maxIdle now = true) : OwnsNothing s := by
  refine ⟨hc, fun h st hget => ?_⟩
  simp only [ShardState.idleLongerThan, Bool.and_eq_true, SortedMap.isEmpty,
    List.isEmpty_iff] at hidle
  have hmem := SortedMap.get?_eq_some_iff.1 hget
  rw [hidle.1] at hmem
  cases hmem

theorem Undrained.ownsNothing (hun : Undrained pool i []) {s : ShardState}
    (hs : pool[i]? = some s) : OwnsNothing s := by
  obtain ⟨-, t, ht, hc, -, howned⟩ := hun
  obtain rfl : t = s := Option.some.inj (ht.symm.trans hs)
  exact ⟨hc, fun h st hget => Bool.eq_false_iff.2 fun hnormal =>
    List.not_mem_nil (howned h st hget hnormal)⟩

theorem walk_ownsNothing (n : Nat) (acc : Shrunk) (hdesired : n ≤ acc.desired)
    (hpassed : ∀ k s, n ≤ k → acc.pool[k]? = some s → OwnsNothing s) (k : Nat) (s : ShardState)
    (hk : (walk max maxIdle now n acc).desired ≤ k)
    (hs : (walk max maxIdle now n acc).pool[k]? = some s) : OwnsNothing s := by
  induction n generalizing acc with
  | zero => exact hpassed k s (Nat.zero_le k) hs
  | succ i ih =>
      cases hverdict : verdict max maxIdle now acc.pool i <;>
        simp only [walk_succ, hverdict] at hk hs
      case ends => exact hpassed k s (hdesired.trans hk) hs
      case counts =>
        refine ih _ (Nat.le_sub_one_of_lt hdesired) (fun k t hik ht => ?_) hk hs
        rcases Nat.lt_or_eq_of_le hik with hlt | rfl
        · exact hpassed k t hlt ht
        · obtain ⟨s', hs', hc, hidle⟩ := verdict_eq_counts hverdict
          obtain rfl : s' = t := Option.some.inj (hs'.symm.trans ht)
          exact ownsNothing_of_idle hc hidle
      case drains moves =>
        obtain ⟨drain, hdrained⟩ := drain_of_verdict hverdict
        refine ih _ ?_ (fun k t hik ht => ?_) hk hs
        · exact Nat.le_of_lt hdesired
        rcases Nat.lt_or_eq_of_le hik with hlt | rfl
        · rw [drain.getElem?_of_gt hlt] at ht
          exact hpassed k t hlt ht
        · exact hdrained.ownsNothing ht

theorem shrink_ownsNothing (max : Int) (maxIdle now : Nat) (pool : Pool) (k : Nat)
    (s : ShardState) (hk : (shrink max maxIdle now pool).desired ≤ k)
    (hs : (shrink max maxIdle now pool).pool[k]? = some s) : OwnsNothing s := by
  refine walk_ownsNothing pool.length ⟨pool, pool.length, 0⟩ le_rfl (fun k t hk ht => ?_) k s hk hs
  have hlt := (List.getElem?_eq_some_iff.1 ht).1
  exact absurd hlt (by simpa using hk)

/-! ## When all of them are idle -/

/-- The shard may be changed and has been idle long enough to go. -/
def MayGo (maxIdle now : Nat) (s : ShardState) : Prop :=
  s.changeable = true ∧ s.idleLongerThan maxIdle now = true

/-- Whether the walk over the first `n` shards counts one after it has passed another one
without counting it; `passed` says whether it has done so before. -/
def countsPastOther (max : Int) (maxIdle now : Nat) : Bool → Nat → Pool → Bool
  | _, 0, _ => false
  | passed, i + 1, pool =>
      match verdict max maxIdle now pool i with
      | .ends => false
      | .counts => passed || countsPastOther max maxIdle now passed i pool
      | .drains moves => countsPastOther max maxIdle now true i (applyMoves i moves pool).1

/-- A shard that has been passed without being counted does not go, unless another one is
counted after it. -/
theorem walk_mayGo_iff_of_passed (n : Nat) (acc : Shrunk) {m : Nat} (hnm : n ≤ m)
    (hdesired : acc.desired = m + 1)
    (hpassed : ∃ s, acc.pool[m]? = some s ∧ s.idleLongerThan maxIdle now = false)
    (hgo : ∀ k s, m < k → acc.pool[k]? = some s → MayGo maxIdle now s) :
    (∀ k s, (walk max maxIdle now n acc).desired ≤ k →
        (walk max maxIdle now n acc).pool[k]? = some s → MayGo maxIdle now s) ↔
      countsPastOther max maxIdle now true n acc.pool = false := by
  induction n generalizing acc with
  | zero =>
      refine iff_of_true (fun k s hk hs => hgo k s ?_ hs) rfl
      rw [walk] at hk
      omega
  | succ i ih =>
      cases hverdict : verdict max maxIdle now acc.pool i <;>
        simp only [walk_succ, countsPastOther, hverdict, Bool.true_or, Bool.true_eq_false]
      case ends =>
        refine iff_of_true (fun k s hk hs => hgo k s ?_ hs) trivial
        omega
      case counts =>
        -- Now shard `m` is cut off, which is not idle.
        refine iff_of_false (fun hall => ?_) id
        obtain ⟨s, hs, hidle⟩ := hpassed
        have hle := walk_desired_le max maxIdle now i { acc with desired := acc.desired - 1 }
        have hgoes := hall m s (by simp only at hle; omega)
          (by rw [walk_getElem?_of_le i _ (by omega), hs])
        rw [hgoes.2] at hidle
        cases hidle
      case drains moves =>
        have hframe : ∀ k, i < k → (applyMoves i moves acc.pool).1[k]? = acc.pool[k]? :=
          fun k hk => (drain_of_verdict hverdict).1.getElem?_of_gt hk
        refine ih _ (by omega) hdesired ?_ fun k s hk hs => ?_
        · rwa [hframe m (by omega)]
        · rw [hframe k (by omega)] at hs
          exact hgo k s hk hs

theorem walk_mayGo_iff (n : Nat) (acc : Shrunk) (hdesired : acc.desired = n)
    (hgo : ∀ k s, n ≤ k → acc.pool[k]? = some s → MayGo maxIdle now s) :
    (∀ k s, (walk max maxIdle now n acc).desired ≤ k →
        (walk max maxIdle now n acc).pool[k]? = some s → MayGo maxIdle now s) ↔
      countsPastOther max maxIdle now false n acc.pool = false := by
  induction n generalizing acc with
  | zero => exact iff_of_true (fun k s _ hs => hgo k s (Nat.zero_le k) hs) rfl
  | succ i ih =>
      cases hverdict : verdict max maxIdle now acc.pool i <;>
        simp only [walk_succ, countsPastOther, hverdict, Bool.false_or]
      case ends => exact iff_of_true (fun k s hk hs => hgo k s (hdesired ▸ hk) hs) trivial
      case counts =>
        refine ih _ (by simp only; omega) fun k s hik hs => ?_
        rcases Nat.lt_or_eq_of_le hik with hlt | rfl
        · exact hgo k s hlt hs
        · obtain ⟨s', hs', hmay⟩ := verdict_eq_counts hverdict
          obtain rfl : s' = s := Option.some.inj (hs'.symm.trans hs)
          exact hmay
      case drains moves =>
        obtain ⟨s, hs, -, hidle, -, -⟩ := verdict_eq_drains hverdict
        have drain := (drain_of_verdict hverdict).1
        obtain ⟨s', hs', -, -, -⟩ := drain.source hs
        refine walk_mayGo_iff_of_passed i _ le_rfl hdesired ⟨s', hs', ?_⟩ fun k t hk ht => ?_
        · rw [idleLongerThan_of_drain drain hs hs', hidle]
        · rw [drain.getElem?_of_gt hk] at ht
          exact hgo k t hk ht

/-- The shards that a shrink cuts off own no target.  They are all idle exactly if the walk
counts no shard after it has passed another one without counting it. -/
theorem shrink_cuts_idle_iff (max : Int) (maxIdle now : Nat) (pool : Pool) :
    (∀ k s, (shrink max maxIdle now pool).desired ≤ k →
        (shrink max maxIdle now pool).pool[k]? = some s → OwnsNothing s) ∧
      ((∀ k s, (shrink max maxIdle now pool).desired ≤ k →
          (shrink max maxIdle now pool).pool[k]? = some s → MayGo maxIdle now s) ↔
        countsPastOther max maxIdle now false pool.length pool = false) := by
  refine ⟨shrink_ownsNothing max maxIdle now pool, ?_⟩
  refine walk_mayGo_iff pool.length ⟨pool, pool.length, 0⟩ rfl fun k s hk hs => ?_
  have hlt := (List.getElem?_eq_some_iff.1 hs).1
  exact absurd hlt (by simpa using hk)

def idleBeforeDraining : Pool :=
  [{ id := "s0", changeable := true, runtime := { headSeries := 10 },
     scraping := .ofList [(1, { health := .good, series := 10, scrapes := 5 })] },
   { id := "s1", changeable := true, runtime := { idleStartAt := some 100 } },
   { id := "s2", changeable := true, runtime := { headSeries := 10 },
     scraping := .ofList [(1, { health := .good, series := 10, state := .inTransfer })] }]

/-- The idle shard is counted and the draining one is cut off. -/
theorem shrink_cuts_draining_shard :
    ¬ ∀ k s, (shrink 100 60 1000 idleBeforeDraining).desired ≤ k →
      (shrink 100 60 1000 idleBeforeDraining).pool[k]? = some s → MayGo 60 1000 s := by
  intro hall
  have hdesired : (shrink 100 60 1000 idleBeforeDraining).desired = 2 := by decide +kernel
  have hlast : (shrink 100 60 1000 idleBeforeDraining).pool[2]? = idleBeforeDraining[2]? := by
    decide +kernel
  have hgoes := hall 2 idleBeforeDraining[2] hdesired.le hlast
  exact absurd hgoes.2 (by decide +kernel)

end ScrapeFleet.Scaling
