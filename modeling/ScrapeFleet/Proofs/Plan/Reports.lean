import Mathlib.Data.Prod.Lex
import ScrapeFleet.Plan.GlobalStatus
import ScrapeFleet.Proofs.Pool.Copies

/-!
# Which report counts

The shards that hold a target report a status of it each.  A report outranks
another one if its standing is higher: good health before any other, then the
number of series.  Standings are linearly ordered, so one pass over the pool
finds the first of the best reports, and the order of the shards only decides
between reports of equal standing, which agree in health and series.
-/

namespace ScrapeFleet

/-! ## Standings -/

namespace Status

variable {a b c : Status}

def isKnown (st : Status) : Bool := st.health ≠ .unknown

def standing (st : Status) : Bool ×ₗ Int := toLex (decide (st.health = .good), st.series)

theorem outranks_iff : a.outranks b = true ↔ b.standing < a.standing := by
  rw [Prod.Lex.lt_iff]
  cases ha : decide (a.health = .good) <;> cases hb : decide (b.health = .good) <;>
    simp [outranks, standing, ha, hb]

theorem outranks_eq_false_iff : a.outranks b = false ↔ a.standing ≤ b.standing := by
  rw [← not_lt, ← outranks_iff, Bool.not_eq_true]

theorem outranks_of_not_outranked (hab : a.outranks b = true) (hcb : c.outranks b = false) :
    a.outranks c = true := by
  rw [outranks_iff] at hab ⊢
  rw [outranks_eq_false_iff] at hcb
  exact lt_of_le_of_lt hcb hab

theorem eq_of_standing_eq (ha : a.isKnown = true) (hb : b.isKnown = true)
    (heq : a.standing = b.standing) : a.health = b.health ∧ a.series = b.series := by
  have hpair := Prod.ext_iff.1 (toLex.injective heq)
  simp only [decide_eq_decide] at hpair
  refine ⟨?_, hpair.2⟩
  simp only [isKnown, ne_eq, decide_not, Bool.not_eq_true', decide_eq_false_iff_not] at ha hb
  cases hah : a.health <;> cases hbh : b.health <;> simp_all

end Status

/-! ## The leading report -/

namespace Pool

variable {pool pool' : Pool} {s : ShardState} {h : Fingerprint} {best st : Status}

def IsReported (pool : Pool) (h : Fingerprint) : Prop :=
  ∃ s ∈ pool, ∃ st, s.copy? h = some st ∧ st.isKnown = true

/-- The report of the first shard among those whose reports no other known one outranks. -/
structure Leads (pool : Pool) (h : Fingerprint) (best : Status) : Prop where
  known : best.isKnown = true
  not_outranked : ∀ s ∈ pool, ∀ st, s.copy? h = some st → st.isKnown = true →
    st.outranks best = false
  first : ∃ before s after, pool = before ++ s :: after ∧ s.copy? h = some best ∧
    ∀ t ∈ before, ∀ st, t.copy? h = some st → st.isKnown = true → best.outranks st = true

theorem Leads.exists_mem (hbest : pool.Leads h best) : ∃ s ∈ pool, s.copy? h = some best := by
  obtain ⟨before, s, after, rfl, hs, -⟩ := hbest.first
  exact ⟨s, by simp, hs⟩

/-- `best` leads; if there is none, no report is known. -/
def LedBy (pool : Pool) (h : Fingerprint) : Option Status → Prop
  | none => ¬ pool.IsReported h
  | some best => pool.Leads h best

theorem LedBy.skip {best : Option Status} (hbest : pool.LedBy h best)
    (hs : ∀ st, s.copy? h = some st → st.isKnown = true → best.all (st.outranks ·) = false) :
    LedBy (pool ++ [s]) h best := by
  cases best with
  | none =>
      rintro ⟨t, ht, st, hst, hknown⟩
      rcases List.mem_append.1 ht with ht | ht
      · exact hbest ⟨t, ht, st, hst, hknown⟩
      · obtain rfl := List.mem_singleton.1 ht
        exact Bool.noConfusion (hs st hst hknown)
  | some best =>
      obtain ⟨hknown, hall, before, t, after, rfl, hfirst⟩ := hbest
      refine ⟨hknown, ?_, before, t, after ++ [s], by simp, hfirst⟩
      intro u hu st hst hstKnown
      rcases List.mem_append.1 hu with hu | hu
      · exact hall u hu st hst hstKnown
      · obtain rfl := List.mem_singleton.1 hu
        exact hs st hst hstKnown

theorem LedBy.overtake {best : Option Status} (hbest : pool.LedBy h best)
    (hst : s.copy? h = some st) (hknown : st.isKnown = true)
    (houtranks : best.all (st.outranks ·) = true) : LedBy (pool ++ [s]) h (some st) := by
  have hall : ∀ t ∈ pool, ∀ other, t.copy? h = some other → other.isKnown = true →
      st.outranks other = true := by
    intro t ht other hother hotherKnown
    cases best with
    | none => exact absurd ⟨t, ht, other, hother, hotherKnown⟩ hbest
    | some best =>
        exact Status.outranks_of_not_outranked houtranks
          (hbest.not_outranked t ht other hother hotherKnown)
  refine ⟨hknown, ?_, pool, s, [], rfl, hst, hall⟩
  intro t ht other hother hotherKnown
  rw [Status.outranks_eq_false_iff]
  rcases List.mem_append.1 ht with ht | ht
  · exact (Status.outranks_iff.1 (hall t ht other hother hotherKnown)).le
  · obtain rfl := List.mem_singleton.1 ht
    obtain rfl := Option.some.inj (hother.symm.trans hst)
    exact le_rfl

theorem Leads.perm (hbest : pool.Leads h best) (hperm : pool.Perm pool')
    (hst : pool'.Leads h st) : st.health = best.health ∧ st.series = best.series := by
  obtain ⟨s, hs, hcopy⟩ := hbest.exists_mem
  obtain ⟨t, ht, hcopy'⟩ := hst.exists_mem
  have hle := hst.not_outranked s (hperm.mem_iff.1 hs) best hcopy hbest.known
  have hge := hbest.not_outranked t (hperm.mem_iff.2 ht) st hcopy' hst.known
  rw [Status.outranks_eq_false_iff] at hle hge
  exact Status.eq_of_standing_eq hst.known hbest.known (le_antisymm hge hle)

end Pool

/-! ## The merged status of a target -/

namespace GlobalStatus

variable {σ : Type} {pool : Pool} {h : Fingerprint}

theorem statuses_holders (pool : Pool) (h : Fingerprint) :
    (holders pool h).map (·.2) = pool.filterMap (·.copy? h) := by
  simp only [holders, List.filterMap_filter, List.map_filterMap]
  congr 1
  funext s
  cases hc : s.changeable <;> simp [ShardState.copy?, hc]

theorem mem_ids_holders {id : String} :
    id ∈ (holders pool h).map (·.1) ↔ ∃ s ∈ pool, s.id = id ∧ ∃ st, s.copy? h = some st := by
  simp only [holders, List.mem_map, List.mem_filterMap, List.mem_filter, Option.map_eq_some_iff,
    Prod.exists, Prod.mk.injEq, exists_and_right, exists_eq_right]
  constructor
  · rintro ⟨st, s, ⟨hs, hc⟩, st', hget, rfl, -⟩
    exact ⟨s, hs, rfl, st', (ShardState.copy?_eq_get? hc h).trans hget⟩
  · rintro ⟨s, hs, rfl, st, hst⟩
    obtain ⟨hc, hget⟩ := ShardState.get?_of_copy? hst
    exact ⟨st, s, ⟨hs, hc⟩, st, hget, rfl, rfl⟩

theorem better_of_unknown {best : Option Status} {st : Status} (hst : st.isKnown = false) :
    better best st = best := by
  have hunknown : st.health = .unknown := by simpa [Status.isKnown] using hst
  simp [better, hunknown]

theorem better_of_known {best : Option Status} {st : Status} (hst : st.isKnown = true) :
    better best st = if best.all (st.outranks ·) then some st else best := by
  have hknown : st.health ≠ .unknown := by simpa [Status.isKnown] using hst
  cases best with
  | none => simp [better, hknown]
  | some best => simp [better, hknown]

theorem ledBy_append {best : Option Status} {s : ShardState} (hbest : pool.LedBy h best) :
    Pool.LedBy (pool ++ [s]) h ((s.copy? h).toList.foldl better best) := by
  cases hst : s.copy? h with
  | none => exact hbest.skip (by simp [hst])
  | some st =>
      change Pool.LedBy (pool ++ [s]) h (better best st)
      cases hknown : st.isKnown with
      | false =>
          rw [better_of_unknown hknown]
          exact hbest.skip (by simp [hst, hknown])
      | true =>
          rw [better_of_known hknown]
          split
          · rename_i houtranks
            exact hbest.overtake hst hknown houtranks
          · rename_i hnot
            apply hbest.skip
            intro st' hst' _
            obtain rfl := Option.some.inj (hst.symm.trans hst')
            simpa using hnot

/-- The fold over the reports finds the leading one, if any is known. -/
theorem ledBy_foldl_better (pool : Pool) (h : Fingerprint) :
    pool.LedBy h ((pool.filterMap (·.copy? h)).foldl better none) := by
  induction pool using List.reverseRecOn with
  | nil => simp [Pool.LedBy, Pool.IsReported]
  | append_singleton pool s ih =>
      have hone : [s].filterMap (·.copy? h) = (s.copy? h).toList := by
        cases hst : s.copy? h <;> simp [hst]
      rw [List.filterMap_append, List.foldl_append, hone]
      exact ledBy_append ih

theorem contains_shards_merged {estimate : Option Status} {id : String} :
    (merged pool estimate h).shards.contains id = true ↔
      ∃ s ∈ pool, s.id = id ∧ ∃ st, s.copy? h = some st := by
  rw [merged, SortedSet.contains_ofList, mem_ids_holders]

theorem merged_of_reported (hreported : pool.IsReported h) (estimate : Option Status) :
    ∃ best, pool.Leads h best ∧
      merged pool estimate h = { best with shards := (merged pool estimate h).shards } := by
  have hled := ledBy_foldl_better pool h
  rw [merged, statuses_holders]
  generalize (pool.filterMap (·.copy? h)).foldl better none = best at hled ⊢
  cases best with
  | none => exact absurd hreported hled
  | some best => exact ⟨best, hled, rfl⟩

theorem merged_of_not_reported (hnot : ¬ pool.IsReported h) (estimate : Option Status) :
    merged pool estimate h =
      { estimate.getD (.fresh 0) with shards := (merged pool estimate h).shards } := by
  have hled := ledBy_foldl_better pool h
  rw [merged, statuses_holders]
  generalize (pool.filterMap (·.copy? h)).foldl better none = best at hled ⊢
  cases best with
  | none => rfl
  | some best =>
      obtain ⟨s, hs, hcopy⟩ := hled.exists_mem
      exact absurd ⟨s, hs, best, hcopy, hled.known⟩ hnot

/-- Where some report is known, the order of the shards changes nothing but details of it. -/
theorem merged_perm {pool' : Pool} (hperm : pool.Perm pool') (hreported : pool.IsReported h)
    (estimate estimate' : Option Status) :
    (merged pool' estimate' h).health = (merged pool estimate h).health ∧
      (merged pool' estimate' h).series = (merged pool estimate h).series ∧
      (merged pool' estimate' h).shards = (merged pool estimate h).shards := by
  have hreported' : pool'.IsReported h := by
    obtain ⟨s, hs, hst⟩ := hreported
    exact ⟨s, hperm.mem_iff.1 hs, hst⟩
  obtain ⟨best, hbest, heq⟩ := merged_of_reported hreported estimate
  obtain ⟨best', hbest', heq'⟩ := merged_of_reported hreported' estimate'
  obtain ⟨hhealth, hseries⟩ := hbest.perm hperm hbest'
  refine ⟨?_, ?_, ?_⟩
  · rw [heq, heq']
    exact hhealth
  · rw [heq, heq']
    exact hseries
  · apply SortedSet.ext
    intro id
    rw [Bool.eq_iff_iff, contains_shards_merged, contains_shards_merged]
    simp only [hperm.mem_iff]

end GlobalStatus

/-! ## The merged statuses of all targets -/

namespace TargetsByJob

def LastUnder (ts : TargetsByJob) (h : Fingerprint) (job : String) : Prop :=
  (∃ t, (job, t) ∈ ts.listed ∧ t.hash = h) ∧
    ∀ job' t, (job', t) ∈ ts.listed → t.hash = h → (compare job' job).isLE = true

theorem pairwise_listed (ts : TargetsByJob) :
    ts.listed.Pairwise fun a b => (compare a.1 b.1).isLE = true := by
  refine List.pairwise_flatMap.2 ⟨fun e _ => ?_, ts.sorted.imp ?_⟩
  · rw [List.pairwise_map]
    exact List.pairwise_of_forall fun _ _ => by simp
  · intro a b hlt x hx y hy
    obtain ⟨t, -, rfl⟩ := List.mem_map.1 hx
    obtain ⟨u, -, rfl⟩ := List.mem_map.1 hy
    simp [hlt]

theorem lastUnder_of_append {ts : TargetsByJob} {before after : List (String × Target)}
    {item : String × Target} (hts : ts.listed = before ++ item :: after)
    (hafter : ∀ other ∈ after, other.2.hash ≠ item.2.hash) :
    ts.LastUnder item.2.hash item.1 := by
  have hsorted := ts.pairwise_listed
  rw [hts, List.pairwise_append] at hsorted
  refine ⟨⟨item.2, by simp [hts], rfl⟩, fun job t hmem hhash => ?_⟩
  rw [hts, List.mem_append, List.mem_cons] at hmem
  rcases hmem with hmem | rfl | hmem
  · exact hsorted.2.2 (job, t) hmem item List.mem_cons_self
  · simp
  · exact absurd hhash (hafter (job, t) hmem)

end TargetsByJob

namespace GlobalStatus

variable {σ : Type} {h : Fingerprint}

theorem get?_foldl_insert (status : String × Target → Status) (items : List (String × Target))
    (h : Fingerprint) :
    ((∀ item ∈ items, item.2.hash ≠ h) ∧
        (items.foldl (fun (m : StatusMap) item => m.insert item.2.hash (status item)) ∅).get? h =
          none) ∨
      ∃ before item after, items = before ++ item :: after ∧ item.2.hash = h ∧
        (∀ other ∈ after, other.2.hash ≠ h) ∧
        (items.foldl (fun (m : StatusMap) item => m.insert item.2.hash (status item)) ∅).get? h =
          some (status item) := by
  induction items using List.reverseRecOn with
  | nil => exact .inl ⟨by simp, rfl⟩
  | append_singleton items item ih =>
      simp only [List.foldl_append, List.foldl_cons, List.foldl_nil, SortedMap.get?_insert]
      by_cases hitem : h = item.2.hash
      · exact .inr ⟨items, item, [], rfl, hitem.symm, by simp, if_pos hitem⟩
      · have hother : ∀ other ∈ [item], other.2.hash ≠ h := by simpa using Ne.symm hitem
        simp only [if_neg hitem]
        rcases ih with ⟨hnone, hget⟩ | ⟨before, last, after, rfl, hlast, hafter, hget⟩
        · exact .inl ⟨List.forall_mem_append.2 ⟨hnone, hother⟩, hget⟩
        · exact .inr ⟨before, last, after ++ [item], by simp, hlast,
            List.forall_mem_append.2 ⟨hafter, hother⟩, hget⟩

theorem get?_merge_cases (lookup : Lookup σ) (explored : σ) (active : TargetsByJob) (pool : Pool)
    (h : Fingerprint) :
    (h ∉ active.hashes ∧ (merge lookup explored active pool).get? h = none) ∨
      ∃ job, active.LastUnder h job ∧ h ∈ active.hashes ∧
        (merge lookup explored active pool).get? h =
          some (merged pool (lookup.estimate job h explored) h) := by
  rcases get?_foldl_insert
    (fun item => merged pool (lookup.estimate item.1 item.2.hash explored) item.2.hash)
    active.listed h with ⟨hnone, hget⟩ | ⟨before, item, after, hlisted, rfl, hafter, hget⟩
  · refine .inl ⟨fun hmem => ?_, hget⟩
    obtain ⟨item, hitem, hhash⟩ := List.mem_map.1 hmem
    exact hnone item hitem hhash
  · have hitem : item ∈ active.listed := by simp [hlisted]
    exact .inr ⟨item.1, TargetsByJob.lastUnder_of_append hlisted hafter,
      List.mem_map_of_mem hitem, hget⟩

/-- There is one status for each active target.  It names the shards that hold the target, and
otherwise it is the leading report, or the estimate for the last job if no report is known.  As
long as one is known, the order of the shards changes neither health nor series nor names. -/
theorem merge_reports (lookup : Lookup σ) (explored : σ) (active : TargetsByJob) (pool : Pool) :
    (∀ h, h ∈ (merge lookup explored active pool).keys ↔ h ∈ active.hashes) ∧
      ∀ h st, (merge lookup explored active pool).get? h = some st →
        (∀ id, st.shards.contains id = true ↔
          ∃ s ∈ pool, s.id = id ∧ ∃ copy, s.copy? h = some copy) ∧
        (pool.IsReported h → ∃ best, pool.Leads h best ∧ st = { best with shards := st.shards }) ∧
        (¬ pool.IsReported h → ∃ job, active.LastUnder h job ∧
          st = { (lookup.estimate job h explored).getD (.fresh 0) with shards := st.shards }) ∧
        ∀ pool', pool.Perm pool' → pool.IsReported h →
          ∃ st', (merge lookup explored active pool').get? h = some st' ∧
            st'.health = st.health ∧ st'.series = st.series ∧ st'.shards = st.shards := by
  constructor
  · intro h
    rw [SortedMap.mem_keys_iff]
    rcases get?_merge_cases lookup explored active pool h with
      ⟨hinactive, hget⟩ | ⟨job, -, hactive, hget⟩
    · simp [hget, hinactive]
    · simp [hget, hactive]
  · intro h st hst
    rcases get?_merge_cases lookup explored active pool h with
      ⟨-, hget⟩ | ⟨job, hjob, hactive, hget⟩
    · rw [hget] at hst
      cases hst
    obtain rfl := Option.some.inj (hget.symm.trans hst)
    refine ⟨fun id => contains_shards_merged, fun hreported => merged_of_reported hreported _,
      fun hnot => ⟨job, hjob, merged_of_not_reported hnot _⟩, ?_⟩
    intro pool' hperm hreported
    rcases get?_merge_cases lookup explored active pool' h with
      ⟨hinactive, -⟩ | ⟨job', -, -, hget'⟩
    · exact absurd hactive hinactive
    · exact ⟨_, hget', merged_perm hperm hreported _ _⟩

end GlobalStatus

end ScrapeFleet
