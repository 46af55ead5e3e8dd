import Mathlib.Data.Finset.Max
import Mathlib.Data.Prod.Lex
import ScrapeFleet.Proofs.Plan.Cleanup

/-!
# Cleaning in one stroke

Cleaning compares each shard with shards of which some have been cleaned before.  The outcome is
that of one filter, in which every copy is compared with the copies of the pool at the start.
A copy that loses at the start also loses against the best one of its rivals.  That one loses
against nobody, so it is still there when the others are compared with it, in whatever order.
-/

namespace ScrapeFleet

def Pool.entryCount (pool : Pool) : Nat := (pool.map (·.scraping.size)).foldr (· + ·) 0

theorem Pool.entryCount_set {pool : Pool} {i : Nat} {s : ShardState} (hs : pool[i]? = some s)
    (s' : ShardState) :
    Pool.entryCount (pool.set i s') + s.scraping.size = pool.entryCount + s'.scraping.size := by
  induction pool generalizing i with
  | nil => simp at hs
  | cons t pool ih =>
      cases i with
      | zero =>
          obtain rfl : t = s := by simpa using hs
          simp only [entryCount, List.set_cons_zero, List.map_cons, List.foldr_cons]
          omega
      | succ i =>
          have hrest := ih (i := i) (by simpa using hs)
          simp only [entryCount, List.set_cons_succ, List.map_cons, List.foldr_cons] at hrest ⊢
          omega

namespace Cleanup

variable {active : List Fingerprint} {pool : Pool} {i : Nat} {s : ShardState} {h : Fingerprint}
  {st : Status}

/-! ## The filter -/

def rivals (pool : Pool) (i : Nat) (h : Fingerprint) : List (Int ×ₗ Nat) :=
  (pool.zipIdx.filter fun (t, j) => j ≠ i && t.has Status.isSettled h).map fun (t, j) =>
    toLex (t.head, j)

/-- Whether shard `i`, which is `s`, keeps its copy `st` of the target.  A settled copy gives way to
rivals with less load, on equal load to earlier ones, and a stable copy in transfer to any rival. -/
def keeps (active : List Fingerprint) (pool : Pool) (i : Nat) (s : ShardState) (h : Fingerprint)
    (st : Status) : Bool :=
  !s.changeable || active.contains h && (!st.isStable ||
    match st.state with
    | .normal => (rivals pool i h).all (¬ · < toLex (s.head, i))
    | .inTransfer => (rivals pool i h).isEmpty)

def filtered (active : List Fingerprint) (pool : Pool) : Pool :=
  pool.mapIdx fun i s => { s with scraping := s.scraping.filter (keeps active pool i s) }

theorem mem_rivals {r : Int ×ₗ Nat} : r ∈ rivals pool i h ↔
    ∃ t, pool[(ofLex r).2]? = some t ∧ (ofLex r).2 ≠ i ∧ t.has Status.isSettled h = true ∧
      t.head = (ofLex r).1 := by
  simp only [rivals, List.mem_map, List.mem_filter, Prod.exists, List.mem_zipIdx_iff_getElem?,
    Bool.and_eq_true, decide_eq_true_eq]
  constructor
  · rintro ⟨t, j, ⟨ht, hne, hsettled⟩, rfl⟩
    exact ⟨t, ht, hne, hsettled, rfl⟩
  · rintro ⟨t, ht, hne, hsettled, hhead⟩
    exact ⟨t, (ofLex r).2, ⟨ht, hne, hsettled⟩, by rw [hhead]; rfl⟩

theorem has_settled_iff {t : ShardState} : t.has Status.isSettled h = true ↔
    t.changeable = true ∧ ∃ other, t.scraping.get? h = some other ∧ other.isSettled = true := by
  cases hc : t.changeable <;> simp [ShardState.has, ShardState.copy?, hc, Option.any_eq_true]

theorem beats_iff {j : Nat} {a b : Int} {other : Status} : beats i j a b st other = true ↔
    other.isNormal = true ∧ (st.state = .inTransfer ∨ toLex (b, j) < toLex (a, i)) := by
  rw [Status.isNormal_iff, Prod.Lex.toLex_lt_toLex]
  cases hst : st.state <;> cases hother : other.state <;> simp [beats, hst, hother]

theorem losesDuplicate_iff_rival {head : Int} : losesDuplicate pool i head h st = true ↔
    st.isStable = true ∧ ∃ r ∈ rivals pool i h, st.state = .inTransfer ∨ r < toLex (head, i) := by
  rw [losesDuplicate_iff]
  refine and_congr_right fun _ => ?_
  constructor
  · rintro ⟨j, t, other, hne, ht, hc, hget, hstable, hbeats⟩
    obtain ⟨hnormal, hwins⟩ := beats_iff.1 hbeats
    refine ⟨toLex (t.head, j), mem_rivals.2 ⟨t, ht, hne, ?_, rfl⟩, hwins⟩
    exact has_settled_iff.2 ⟨hc, other, hget, by simp [Status.isSettled, hnormal, hstable]⟩
  · rintro ⟨r, hr, hwins⟩
    obtain ⟨t, ht, hne, hsettled, hhead⟩ := mem_rivals.1 hr
    obtain ⟨hc, other, hget, hother⟩ := has_settled_iff.1 hsettled
    simp only [Status.isSettled, Bool.and_eq_true] at hother
    refine ⟨(ofLex r).2, t, other, hne, ht, hc, hget, hother.2, beats_iff.2 ⟨hother.1, ?_⟩⟩
    rw [hhead]
    exact hwins

theorem keeps_of_changeable (hc : s.changeable = true) :
    keeps active pool i s h st = stays active pool i s.head h st := by
  have hlose : losesDuplicate pool i s.head h st = (st.isStable && !
      match st.state with
      | .normal => (rivals pool i h).all (¬ · < toLex (s.head, i))
      | .inTransfer => (rivals pool i h).isEmpty) := by
    rw [Bool.eq_iff_iff, losesDuplicate_iff_rival]
    cases st.state <;> simp [List.eq_nil_iff_forall_not_mem]
  rw [keeps, stays, hlose]
  simp [hc]

/-! ## The best rival -/

/-- A copy that loses also does so against a settled copy that itself does not lose. -/
theorem exists_rival_of_losesDuplicate (hs : pool[i]? = some s) (hget : s.scraping.get? h = some st)
    (hlose : losesDuplicate pool i s.head h st = true) :
    ∃ j t other, j ≠ i ∧ pool[j]? = some t ∧ t.changeable = true ∧ t.scraping.get? h = some other ∧
      other.isStable = true ∧ beats i j s.head t.head st other = true ∧
      losesDuplicate pool j t.head h other = false := by
  obtain ⟨-, r, hr, hwins⟩ := losesDuplicate_iff_rival.1 hlose
  obtain ⟨best, hbest, hleast⟩ :=
    (rivals pool i h).toFinset.exists_min_image id ⟨r, List.mem_toFinset.2 hr⟩
  rw [List.mem_toFinset] at hbest
  replace hleast : ∀ q ∈ rivals pool i h, best ≤ q := fun q hq => hleast q (List.mem_toFinset.2 hq)
  obtain ⟨t, ht, hne, hsettled, hhead⟩ := mem_rivals.1 hbest
  obtain ⟨hc, other, hother, hosettled⟩ := has_settled_iff.1 hsettled
  simp only [Status.isSettled, Bool.and_eq_true] at hosettled
  have hbestLex : toLex (t.head, (ofLex best).2) = best := by
    rw [hhead]
    rfl
  have hbestWins : st.state = .inTransfer ∨ toLex (t.head, (ofLex best).2) < toLex (s.head, i) := by
    rw [hbestLex]
    exact hwins.imp_right (hleast r hr).trans_lt
  refine ⟨(ofLex best).2, t, other, hne, ht, hc, hother, hosettled.2,
    beats_iff.2 ⟨hosettled.1, hbestWins⟩, Bool.eq_false_iff.2 fun hloses => ?_⟩
  obtain ⟨-, q, hq, hqwins⟩ := losesDuplicate_iff_rival.1 hloses
  rw [hbestLex, Status.isNormal_iff.1 hosettled.1] at hqwins
  have hqlt : q < best := hqwins.resolve_left (by simp)
  obtain ⟨u, hu, -, husettled, huhead⟩ := mem_rivals.1 hq
  by_cases hqi : (ofLex q).2 = i
  · -- The copy itself has settled, so it has lost by its load or position, and not to win here.
    obtain rfl : s = u := Option.some.inj (hs.symm.trans (hqi ▸ hu))
    obtain ⟨-, own, hown, hownsettled⟩ := has_settled_iff.1 husettled
    obtain rfl : st = own := Option.some.inj (hget.symm.trans hown)
    simp only [Status.isSettled, Bool.and_eq_true, Status.isNormal_iff] at hownsettled
    have hqLex : toLex (s.head, i) = q := by
      rw [huhead, ← hqi]
      rfl
    rw [hownsettled.1, hqLex] at hwins
    exact absurd ((hleast r hr).trans_lt (hwins.resolve_left (by simp))) hqlt.asymm
  · exact absurd hqlt (hleast q (mem_rivals.2 ⟨u, hu, hqi, husettled, huhead⟩)).not_gt

/-! ## What is left in the end -/

/-- What cleaning has made of the pool by some moment: entries are gone, but none that was to stay at
the start, and those that are gone have been counted. -/
structure Reduced (active : List Fingerprint) (pool : Pool) (acc : Pool × Nat) : Prop where
  length_eq : acc.1.length = pool.length
  stays : ∀ k head h st, stays active pool k head h st = true →
    Cleanup.stays active acc.1 k head h st = true
  shard : ∀ (k : Nat) (s : ShardState), pool[k]? = some s →
    ∃ left, acc.1[k]? = some { s with scraping := left } ∧ ∀ h st,
      (left.get? h = some st → s.scraping.get? h = some st) ∧
      (s.scraping.get? h = some st → keeps active pool k s h st = true → left.get? h = some st)
  counted : acc.2 + acc.1.entryCount = pool.entryCount

theorem Reduced.start (active : List Fingerprint) (pool : Pool) : Reduced active pool (pool, 0) where
  length_eq := rfl
  stays _ _ _ _ hstays := hstays
  shard _ s hs := ⟨s.scraping, hs, fun _ _ => ⟨id, fun hget _ => hget⟩⟩
  counted := Nat.zero_add _

theorem counted_cleanShard (active : List Fingerprint) (acc : Pool × Nat) (i : Nat) :
    (cleanShard active acc i).2 + (cleanShard active acc i).1.entryCount =
      acc.2 + acc.1.entryCount := by
  obtain ⟨pool, removed⟩ := acc
  unfold cleanShard
  cases hs : pool[i]? with
  | none => simp [hs]
  | some s =>
      dsimp only
      rw [hs]
      dsimp only
      split
      · have hless : (s.scraping.filter (stays active pool i s.head)).size ≤ s.scraping.size :=
          List.length_filter_le _ _
        have hcount := Pool.entryCount_set hs
          { s with scraping := s.scraping.filter (stays active pool i s.head) }
        dsimp only at hcount ⊢
        omega
      · rfl

theorem Reduced.cleanShard {acc : Pool × Nat} (hacc : Reduced active pool acc) (i : Nat) :
    Reduced active pool (cleanShard active acc i) := by
  have hcounted := (counted_cleanShard active acc i).trans hacc.counted
  obtain ⟨-, heq⟩ | ⟨s, hs, hc, heq⟩ := cleanShard_cases active acc i
  · exact ⟨heq ▸ hacc.length_eq, heq ▸ hacc.stays, heq ▸ hacc.shard, hcounted⟩
  · refine ⟨by simp [heq, cleaned, hacc.length_eq], fun k head h st hstays => ?_,
      fun k t ht => ?_, hcounted⟩
    · rw [heq]
      exact stays_cleaned hs (hacc.stays k head h st hstays)
    · obtain ⟨left, hleft, hentries⟩ := hacc.shard k t ht
      rw [heq, cleaned]
      by_cases hik : i = k
      · subst hik
        obtain rfl := Option.some.inj (hs.symm.trans hleft)
        replace hc : t.changeable = true := hc
        refine ⟨left.filter (Cleanup.stays active acc.1 i t.head),
          List.getElem?_set_self (List.getElem?_eq_some_iff.1 hs).1, fun h st => ?_⟩
        rw [SortedMap.get?_filter, Option.filter_eq_some_iff]
        refine ⟨fun hget => (hentries h st).1 hget.1, fun hget hkeeps => ?_⟩
        refine ⟨(hentries h st).2 hget hkeeps, hacc.stays i t.head h st ?_⟩
        rwa [keeps_of_changeable hc] at hkeeps
      · exact ⟨left, by rw [List.getElem?_set_ne hik, hleft], hentries⟩

theorem reduced_run (active : List Fingerprint) (pool : Pool) :
    Reduced active pool (run active pool) :=
  List.foldlRecOn (motive := Reduced active pool) _ _ (.start active pool)
    fun _ hacc i _ => hacc.cleanShard i

/-- A copy is left in the end exactly if the filter keeps it. -/
theorem get?_run_iff {left : StatusMap} (hs : pool[i]? = some s)
    (hleft : (run active pool).1[i]? = some { s with scraping := left }) :
    left.get? h = some st ↔
      s.scraping.get? h = some st ∧ keeps active pool i s h st = true := by
  have hreduced := reduced_run active pool
  obtain ⟨left', hleft', hentries⟩ := hreduced.shard i s hs
  obtain rfl : left = left' := by simpa using hleft.symm.trans hleft'
  refine ⟨fun hget => ?_, fun ⟨hget, hkeeps⟩ => (hentries h st).2 hget hkeeps⟩
  have hstart := (hentries h st).1 hget
  refine ⟨hstart, ?_⟩
  cases hc : s.changeable with
  | false => simp [keeps, hc]
  | true =>
      have hstays := isClean_run active pool i _ hleft hc h st hget
      simp only [keeps_of_changeable hc, stays, Bool.and_eq_true, Bool.not_eq_true'] at hstays ⊢
      refine ⟨hstays.1, Bool.eq_false_iff.2 fun hlose => ?_⟩
      -- The best rival is left as well, and wins over the copy in the end too.
      obtain ⟨j, t, other, hne, ht, htc, hother, hstable, hbeats, hwinner⟩ :=
        exists_rival_of_losesDuplicate hs hstart hlose
      obtain ⟨tleft, htleft, htentries⟩ := hreduced.shard j t ht
      have hotherKept : keeps active pool j t h other = true := by
        simpa [keeps_of_changeable htc, stays, hwinner] using hstays.1
      have hagain : losesDuplicate (run active pool).1 i s.head h st = true :=
        losesDuplicate_iff.2 ⟨(losesDuplicate_iff.1 hlose).1, j, _, other, hne, htleft, htc,
          (htentries h other).2 hother hotherKept, hstable, hbeats⟩
      rw [hagain] at hstays
      exact Bool.noConfusion hstays.2

/-- Cleaning comes to the filter on the pool at the start: just the copies that the filter drops are
gone, and have been counted, and the rest is as it was.  Cleaning again drops nothing. -/
theorem run_eq_filtered (active : List Fingerprint) (pool : Pool) :
    (run active pool).1 = filtered active pool ∧
      (run active pool).2 + (filtered active pool).entryCount = pool.entryCount ∧
      run active (filtered active pool) = (filtered active pool, 0) := by
  have hreduced := reduced_run active pool
  have hpool : (run active pool).1 = filtered active pool := by
    refine List.ext_getElem? fun i => ?_
    rw [filtered, List.getElem?_mapIdx]
    cases hs : pool[i]? with
    | none => simpa [hreduced.length_eq] using hs
    | some s =>
        obtain ⟨left, hleft, -⟩ := hreduced.shard i s hs
        have hfilter : left = s.scraping.filter (keeps active pool i s) := by
          refine SortedMap.ext fun h => Option.ext fun st => ?_
          rw [get?_run_iff hs hleft, SortedMap.get?_filter, Option.filter_eq_some_iff]
        rw [hleft, hfilter, Option.map_some]
  refine ⟨hpool, hpool ▸ hreduced.counted, ?_⟩
  rw [← hpool]
  exact run_of_isClean (isClean_run active pool)

end Cleanup

end ScrapeFleet
