import ScrapeFleet.Proofs.Plan.Step

/-!
# What cleaning leaves behind

Cleaning goes over the shards in pool order.  A shard that has been cleaned
stays clean: cleaning other shards only takes copies away that its own ones
could lose against.  So in the end no copy loses against another one, and since
of two settled copies one always loses, at most one is left of each target.
-/

namespace ScrapeFleet.Cleanup

open Planning

variable {max : Int} {active : List Fingerprint} {pool : Pool} {i : Nat} {s : ShardState}

theorem losesDuplicate_iff {head : Int} {h : Fingerprint} {st : Status} :
    losesDuplicate pool i head h st = true ↔
      st.isStable = true ∧ ∃ j t other, j ≠ i ∧ pool[j]? = some t ∧ t.changeable = true ∧
        t.scraping.get? h = some other ∧ other.isStable = true ∧
        beats i j head t.head st other = true := by
  simp only [losesDuplicate, Bool.and_eq_true, List.any_eq_true, Prod.exists,
    List.mem_zipIdx_iff_getElem?]
  refine and_congr_right fun _ => ?_
  constructor
  · rintro ⟨t, j, ht, ⟨hne, hc⟩, hwins⟩
    cases hget : t.scraping.get? h with
    | none => simp [hget] at hwins
    | some other =>
        simp only [hget, Bool.and_eq_true] at hwins
        exact ⟨j, t, other, by simpa using hne, ht, hc, hget, hwins⟩
  · rintro ⟨j, t, other, hne, ht, hc, hget, hwins⟩
    exact ⟨t, j, ht, ⟨by simpa using hne, hc⟩, by simpa [hget] using hwins⟩

/-! ## One shard -/

theorem cleanShard_cases (active : List Fingerprint) (acc : Pool × Nat) (i : Nat) :
    ((∀ s, acc.1[i]? = some s → s.changeable = false) ∧ (cleanShard active acc i).1 = acc.1) ∨
      ∃ s, acc.1[i]? = some s ∧ s.changeable = true ∧
        (cleanShard active acc i).1 = cleaned active acc.1 i s := by
  obtain ⟨pool, removed⟩ := acc
  unfold cleanShard
  cases hs : pool[i]? with
  | none => exact .inl ⟨by simp, by simp [hs]⟩
  | some s =>
      cases hc : s.changeable with
      | false => exact .inl ⟨by simp [hc], by simp [hs, hc]⟩
      | true => exact .inr ⟨s, rfl, hc, by simp [hs, hc, cleaned]⟩

theorem run_steps (max : Int) (active : List Fingerprint) (pool : Pool) :
    Steps max active pool (run active pool).1 := by
  refine Steps.foldl (cleanShard active) (·.1) (fun acc i _ => ?_) (pool, 0)
  obtain ⟨-, heq⟩ | ⟨s, hs, hc, heq⟩ := cleanShard_cases active acc i
  · rw [heq]
  · rw [heq]
    exact .single (.clean hs hc)

/-! ## Clean shards -/

def IsClean (active : List Fingerprint) (pool : Pool) (i : Nat) : Prop :=
  ∀ s, pool[i]? = some s → s.changeable = true →
    ∀ h st, s.scraping.get? h = some st → stays active pool i s.head h st = true

theorem losesDuplicate_of_cleaned (hs : pool[i]? = some s) {k : Nat} {head : Int}
    {h : Fingerprint} {st : Status}
    (hlose : losesDuplicate (cleaned active pool i s) k head h st = true) :
    losesDuplicate pool k head h st = true := by
  obtain ⟨hstable, j, t, other, hne, ht, hc, hget, hwins⟩ := losesDuplicate_iff.1 hlose
  refine losesDuplicate_iff.2 ⟨hstable, ?_⟩
  by_cases hji : j = i
  · subst hji
    have hlt := (List.getElem?_eq_some_iff.1 hs).1
    rw [cleaned, List.getElem?_set_self hlt, Option.some.injEq] at ht
    subst ht
    rw [SortedMap.get?_filter, Option.filter_eq_some_iff] at hget
    exact ⟨j, s, other, hne, hs, hc, hget.1, hwins⟩
  · rw [cleaned, List.getElem?_set_ne (Ne.symm hji)] at ht
    exact ⟨j, t, other, hne, ht, hc, hget, hwins⟩

theorem stays_cleaned (hs : pool[i]? = some s) {k : Nat} {head : Int} {h : Fingerprint}
    {st : Status} (hstays : stays active pool k head h st = true) :
    stays active (cleaned active pool i s) k head h st = true := by
  simp only [stays, Bool.and_eq_true, Bool.not_eq_true'] at hstays ⊢
  refine ⟨hstays.1, Bool.eq_false_iff.2 fun hlose => ?_⟩
  rw [losesDuplicate_of_cleaned hs hlose] at hstays
  exact Bool.noConfusion hstays.2

theorem isClean_cleaned (hs : pool[i]? = some s) : IsClean active (cleaned active pool i s) i := by
  intro t ht hc h st hget
  have hlt := (List.getElem?_eq_some_iff.1 hs).1
  rw [cleaned, List.getElem?_set_self hlt, Option.some.injEq] at ht
  subst ht
  rw [SortedMap.get?_filter, Option.filter_eq_some_iff] at hget
  exact stays_cleaned hs hget.2

theorem IsClean.cleaned {k : Nat} (hclean : IsClean active pool k) (hs : pool[i]? = some s) :
    IsClean active (cleaned active pool i s) k := by
  by_cases hki : k = i
  · subst hki
    exact isClean_cleaned hs
  · intro t ht hc h st hget
    rw [Cleanup.cleaned, List.getElem?_set_ne (Ne.symm hki)] at ht
    exact stays_cleaned hs (hclean t ht hc h st hget)

theorem isClean_run (active : List Fingerprint) (pool : Pool) (i : Nat) :
    IsClean active (run active pool).1 i := by
  have hfold : ∀ n ≤ pool.length, ∀ k < n,
      IsClean active ((List.range n).foldl (cleanShard active) (pool, 0)).1 k := by
    intro n hn
    induction n with
    | zero => exact fun k hk => absurd hk (Nat.not_lt_zero k)
    | succ n ih =>
        intro k hk
        rw [List.range_succ, List.foldl_append, List.foldl_cons, List.foldl_nil]
        -- The shards before shard `n` are clean already.
        have hbefore := ih (by omega)
        generalize (List.range n).foldl (cleanShard active) (pool, 0) = acc at hbefore ⊢
        obtain ⟨hfrozen, heq⟩ | ⟨s, hs, -, heq⟩ := cleanShard_cases active acc n
        · rw [heq]
          rcases Nat.lt_succ_iff_lt_or_eq.1 hk with hk | rfl
          · exact hbefore k hk
          · intro s hs hc
            rw [hfrozen s hs] at hc
            cases hc
        · rw [heq]
          rcases Nat.lt_succ_iff_lt_or_eq.1 hk with hk | rfl
          · exact (hbefore k hk).cleaned hs
          · exact isClean_cleaned hs
  by_cases hi : i < pool.length
  · exact hfold pool.length le_rfl i hi
  · intro s hs
    have hlt := (List.getElem?_eq_some_iff.1 hs).1
    rw [(run_steps 0 active pool).length_eq] at hlt
    exact absurd hlt hi

/-! ## Settled copies -/

theorem beats_or_beats {i j : Nat} (hne : i ≠ j) (a b : Int) {st other : Status}
    (hother : other.isNormal = true) :
    beats i j a b st other = true ∨ beats j i b a other st = true := by
  rw [Status.isNormal_iff] at hother
  cases hst : st.state with
  | inTransfer => exact .inl (by simp [beats, hst, hother])
  | normal =>
      simp only [beats, hst, hother, Bool.or_eq_true, Bool.and_eq_true, decide_eq_true_eq]
      omega

/-- Beside a settled copy no other one is stable. -/
def Tidy (f : Nat → Option Status) : Prop :=
  ∀ i j a b, i ≠ j → f i = some a → f j = some b → b.isSettled = true → a.isStable = false

theorem tidy_run (active : List Fingerprint) (pool : Pool) (h : Fingerprint) :
    Tidy ((run active pool).1.copies h) := by
  intro i j a b hne ha hb hbsettled
  obtain ⟨s, hs, hsc, hsget⟩ := Pool.copies_eq_some_iff.1 ha
  obtain ⟨t, ht, htc, htget⟩ := Pool.copies_eq_some_iff.1 hb
  simp only [Status.isSettled, Bool.and_eq_true] at hbsettled
  have hsstays := isClean_run active pool i s hs hsc h a hsget
  have htstays := isClean_run active pool j t ht htc h b htget
  simp only [stays, Bool.and_eq_true, Bool.not_eq_true'] at hsstays htstays
  by_contra hstable
  rw [Bool.not_eq_false] at hstable
  rcases beats_or_beats hne s.head t.head hbsettled.1 with hbeats | hbeats
  · have hlose : losesDuplicate (run active pool).1 i s.head h a = true :=
      losesDuplicate_iff.2 ⟨hstable, j, t, b, Ne.symm hne, ht, htc, htget, hbsettled.2, hbeats⟩
    rw [hlose] at hsstays
    exact Bool.noConfusion hsstays.2
  · have hlose : losesDuplicate (run active pool).1 j t.head h b = true :=
      losesDuplicate_iff.2 ⟨hbsettled.2, i, s, a, hne, hs, hsc, hsget, hstable, hbeats⟩
    rw [hlose] at htstays
    exact Bool.noConfusion htstays.2

/-- Cleaning leaves at most one settled copy of each target. -/
theorem settled_run_le_one (active : List Fingerprint) (pool : Pool) (h : Fingerprint) :
    (run active pool).1.countCopies Status.isSettled h ≤ 1 := by
  rw [Pool.countCopies_eq_card, Finset.card_le_one]
  simp only [Finset.mem_filter, Option.any_eq_true]
  rintro i ⟨-, a, ha, hasettled⟩ j ⟨-, b, hb, hbsettled⟩
  by_contra hne
  have hunstable := tidy_run active pool h i j a b hne ha hb hbsettled
  simp only [Status.isSettled, Bool.and_eq_true, hunstable] at hasettled
  exact Bool.noConfusion hasettled.2

theorem mem_active_of_run {h : Fingerprint} {st : Status}
    (hst : (run active pool).1.copies h i = some st) : h ∈ active := by
  obtain ⟨s, hs, hc, hget⟩ := Pool.copies_eq_some_iff.1 hst
  have hstays := isClean_run active pool i s hs hc h st hget
  simp only [stays, Bool.and_eq_true, List.contains_iff_mem] at hstays
  exact hstays.1

/-! ## Cleaning again -/

theorem of_update_eq_some {f : Nat → Option Status} {j k : Nat} {st b : Status}
    (hst : st.isStable = false) (hb : Function.update f k (some st) j = some b)
    (hstable : b.isStable = true) : j ≠ k ∧ f j = some b := by
  by_cases hjk : j = k
  · subst hjk
    rw [Function.update_self, Option.some.injEq] at hb
    rw [← hb, hst] at hstable
    cases hstable
  · rw [Function.update_of_ne hjk] at hb
    exact ⟨hjk, hb⟩

theorem Tidy.change {wanted : Prop} {f g : Nat → Option Status} (hf : Tidy f)
    (change : Change wanted f g) : Tidy g := by
  cases change with
  | keep => exact hf
  | @drop k _ =>
      intro i j a b hne ha hb hbsettled
      have hik : i ≠ k := by
        rintro rfl
        simp at ha
      have hjk : j ≠ k := by
        rintro rfl
        simp at hb
      rw [Function.update_of_ne hik] at ha
      rw [Function.update_of_ne hjk] at hb
      exact hf i j a b hne ha hb hbsettled
  | @move k m st hkm hst hset =>
      intro i j a b hne ha hb hbsettled
      have hstable : b.isStable = true := by
        simp only [Status.isSettled, Bool.and_eq_true] at hbsettled
        exact hbsettled.2
      obtain ⟨-, hmoved⟩ := of_update_eq_some rfl hb hstable
      obtain ⟨hjk, hbefore⟩ := of_update_eq_some rfl hmoved hstable
      rw [hf j k b st hjk hbefore hst hset] at hstable
      cases hstable
  | @place k series _ hnone =>
      intro i j a b hne ha hb _
      by_cases hik : i = k
      · have hjk : j ≠ k := fun hjk => hne (hik.trans hjk.symm)
        rw [Function.update_of_ne hjk, hnone] at hb
        cases hb
      · rw [Function.update_of_ne hik, hnone] at ha
        cases ha

/-- Of a tidy target no copy is settled once one has been moved. -/
theorem Tidy.unsettled_of_move {f : Nat → Option Status} (htidy : Tidy f) {i : Nat} {st : Status}
    (hst : f i = some st) (hsettled : st.isSettled = true) (k : Nat) : Unsettled
      (Function.update (Function.update f i (some st.released)) k (some (.fresh st.series))) := by
  intro n a ha
  by_cases hnk : n = k
  · subst hnk
    rw [Function.update_self] at ha
    obtain rfl := Option.some.inj ha
    rfl
  rw [Function.update_of_ne hnk] at ha
  by_cases hni : n = i
  · subst hni
    rw [Function.update_self] at ha
    obtain rfl := Option.some.inj ha
    rfl
  rw [Function.update_of_ne hni] at ha
  simp [Status.isSettled, htidy n i a st hni ha hst hsettled]

/-- Where all targets are active and tidy, nothing is to be dropped. -/
theorem isClean_of_tidy (hactive : ∀ h k st, pool.copies h k = some st → h ∈ active)
    (htidy : ∀ h, Tidy (pool.copies h)) (i : Nat) : IsClean active pool i := by
  intro s hs hc h st hget
  have hst : pool.copies h i = some st := Pool.copies_eq_some_iff.2 ⟨s, hs, hc, hget⟩
  simp only [stays, Bool.and_eq_true, List.contains_iff_mem, Bool.not_eq_true']
  refine ⟨hactive h i st hst, Bool.eq_false_iff.2 fun hlose => ?_⟩
  obtain ⟨j, other, hne, hother, hsettled⟩ := exists_settled_of_losesDuplicate hlose
  have hstable := (losesDuplicate_iff.1 hlose).1
  rw [htidy h i j st other (Ne.symm hne) hst hother hsettled] at hstable
  cases hstable

theorem run_of_isClean (hclean : ∀ i, IsClean active pool i) : run active pool = (pool, 0) := by
  have hstep : ∀ i, cleanShard active (pool, 0) i = (pool, 0) := by
    intro i
    cases hs : pool[i]? with
    | none => simp [cleanShard, hs]
    | some s =>
        cases hc : s.changeable with
        | false => simp [cleanShard, hs, hc]
        | true =>
            have hkept : s.scraping.filter (stays active pool i s.head) = s.scraping := by
              refine SortedMap.ext fun h => ?_
              rw [SortedMap.get?_filter]
              cases hget : s.scraping.get? h with
              | none => rfl
              | some st => rw [Option.filter_some, if_pos (hclean i s hs hc h st hget)]
            have hset : pool.set i s = pool := by
              obtain ⟨hi, rfl⟩ := List.getElem?_eq_some_iff.1 hs
              exact List.set_getElem_self hi
            simp only [cleanShard, hs, if_pos hc, hkept, Nat.sub_self, Nat.add_zero]
            exact congrArg (·, 0) hset
  have hfold : ∀ l : List Nat, l.foldl (cleanShard active) (pool, 0) = (pool, 0) := by
    intro l
    induction l with
    | nil => rfl
    | cons i l ih => rw [List.foldl_cons, hstep, ih]
  exact hfold _

end ScrapeFleet.Cleanup
