import ScrapeFleet.Proofs.Plan.Admission
import ScrapeFleet.Proofs.Plan.Reports

/-!
# Demand that more shards can meet

Placement passes over targets with more series than the maximum, but a shard has to
stay below the maximum.  So a target with just as many series as the maximum is not
passed over, and yet it does not fit on an empty shard: space is asked for it in
every cycle, the pool grows, and it is never placed.  Every other target for which
space is asked fits on an empty shard.
-/

namespace ScrapeFleet

open Planning

variable {σ : Type} {max : Int}

/-! ## Room on an empty shard -/

theorem ShardState.hasRoom_iff_of_empty {s : ShardState} (hempty : s.head = 0) {series : Int}
    (hfits : Word.Fits series) (hle : series ≤ max) :
    s.hasRoom series max = true ↔ series ≠ max := by
  rw [hasRoom, hempty, Word.add_eq (by rwa [Int.zero_add]), Int.zero_add, decide_eq_true_eq]
  omega

theorem Pool.refuses_iff_of_empty {pool : Pool} {series : Int} (hfits : Word.Fits series)
    (hle : series ≤ max) (hempty : ∃ s ∈ pool, s.changeable = true ∧ s.head = 0) :
    pool.Refuses max series ↔
      series = max ∧ ∀ s ∈ pool, s.changeable = true → max ≤ Word.add s.head max := by
  constructor
  · intro hrefuses
    obtain ⟨e, he, hc, hhead⟩ := hempty
    have hfull : series = max := by
      have hroom := hrefuses e he
      rw [ShardState.accepts, hc, Bool.true_and, ← Bool.not_eq_true,
        ShardState.hasRoom_iff_of_empty hhead hfits hle, not_not] at hroom
      exact hroom
    refine ⟨hfull, fun s hs hc => ?_⟩
    have hroom := hrefuses s hs
    simpa only [ShardState.accepts, hc, Bool.true_and, ShardState.hasRoom,
      decide_eq_false_iff_not, not_lt, hfull] using hroom
  · rintro ⟨rfl, hloads⟩ s hs
    rw [ShardState.accepts, Bool.and_eq_false_iff, ShardState.hasRoom, decide_eq_false_iff_not]
    cases hc : s.changeable with
    | false => exact .inl rfl
    | true => exact .inr (not_lt.2 (hloads s hs hc))

/-! ## Demand for new shards -/

namespace Placement

variable {p : Placement} {lookup : Lookup σ} {known : StatusMap} {acc : Outcome σ}

theorem exists_of_mem_refusals {e : Fingerprint × Int} {items : List (String × Target)}
    (he : e ∈ refusals p lookup known max items acc) : ∃ item ∈ items, ∃ explored st,
      (estimate lookup known item.1 item.2 explored).1 = some st ∧ st.series ≤ max ∧
        st.series = e.2 := by
  induction items generalizing acc with
  | nil => cases he
  | cons item items ih =>
      rw [refusals, List.mem_append] at he
      rcases he with he | he
      · refine ⟨item, List.mem_cons_self, acc.explored, ?_⟩
        unfold refused at he
        split at he
        · cases he
        · split at he
          · cases he
          · rename_i series hwanted
            split at he
            · obtain rfl := List.mem_singleton.1 he
              obtain ⟨st, hst, -, hle, hseries⟩ := wanted_eq_some_iff.1 hwanted
              exact ⟨st, hst, hle, hseries⟩
            · cases he
      · obtain ⟨item, hitem, hrest⟩ := ih he
        exact ⟨item, List.mem_cons_of_mem _ hitem, hrest⟩

/-- A target that is wanted when it is reached is placed for good, unless all shards refuse it. -/
theorem placed_iff_not_refuses {active : TargetsByJob} {before after : List (String × Target)}
    {item : String × Target} {start : Outcome σ} {series : Int}
    (hlisted : active.listed = before ++ item :: after) :
    let acc := before.foldl (placeTarget p lookup known max) start
    let next := placeTarget p lookup known max acc item
    wanted max (estimate lookup known item.1 item.2 acc.explored).1 = some series →
      acc.pool.holds item.2.hash = false → p.Weighs acc.pool series max →
      ((∃ j, next.pool.copies item.2.hash j = some (.fresh series) ∧
          (after.foldl (placeTarget p lookup known max) next).pool.copies item.2.hash j =
            some (.fresh series)) ↔ ¬acc.pool.Refuses max series) := by
  intro acc next hwanted hholds hweighs
  rcases placeTarget_of_wanted (p := p) hwanted hholds with
    ⟨hroom, j, hfresh, hun⟩ | ⟨hpick, hpool, -⟩
  · -- The new copy has not settled, so it is still there when the pass ends.
    have hactive : ∀ other ∈ after, other.2.hash ∈ active.hashes := by
      intro other hmem
      refine List.mem_map_of_mem ?_
      simp [hlisted, hmem]
    have hitem : item.2.hash ∈ active.hashes := List.mem_map_of_mem (by simp [hlisted])
    refine iff_of_true ⟨j, hfresh, ?_⟩ hroom
    rw [copies_foldl_of_unsettled hactive hitem hfresh hun, hfresh]
  · refine iff_of_false ?_ (not_not.2 ((pick_eq_none_iff hweighs).1 hpick))
    rintro ⟨j, hfresh, -⟩
    rw [hpool, Pool.copies_eq_none_of_holds hholds] at hfresh
    cases hfresh

/-- The space that placement asks for is that of targets which fit on an empty shard, but for those
with as many series as the maximum.  Just these may also wait in front of an empty shard, unless
some shard has less than no load. -/
theorem run_meets_demand_iff (p : Placement) (lookup : Lookup σ) (known : StatusMap) (max : Int)
    (active : TargetsByJob) (pool : Pool) (draws : Draws) (explored : σ) :
    let start : Outcome σ := ⟨pool, 0, 0, draws, explored⟩
    let out := p.run lookup known max active pool draws explored
    let denied := refusals p lookup known max active.listed start
    (out.needSpace = Word.sum (denied.map (·.2)) ∧
      ∀ e ∈ denied, Word.Fits e.2 →
        ∀ s : ShardState, s.head = 0 → (s.hasRoom e.2 max = true ↔ e.2 ≠ max)) ∧
    ∀ before item after st, active.listed = before ++ item :: after →
      let acc := before.foldl (placeTarget p lookup known max) start
      let placed := ∃ j,
        (placeTarget p lookup known max acc item).pool.copies item.2.hash j =
            some (.fresh st.series) ∧
          out.pool.copies item.2.hash j = some (.fresh st.series)
      acc.pool.holds item.2.hash = false →
      (estimate lookup known item.1 item.2 acc.explored).1 = some st → st.health = .good →
      st.series ≤ max → Word.Fits st.series → p.Weighs acc.pool st.series max →
      (∃ s ∈ acc.pool, s.changeable = true ∧ s.head = 0) →
      (placed ↔ st.series ≠ max ∨
          ∃ s ∈ acc.pool, s.changeable = true ∧ Word.add s.head max < max) ∧
        ((∀ s ∈ acc.pool, Word.Fits (s.head + max)) →
          (placed ↔ st.series ≠ max ∨ ∃ s ∈ acc.pool, s.changeable = true ∧ s.head < 0)) := by
  intro start out denied
  refine ⟨⟨needSpace_foldl _ _, fun e he hfits s hs => ?_⟩, ?_⟩
  · obtain ⟨-, -, -, st, -, hle, hseries⟩ := exists_of_mem_refusals he
    exact ShardState.hasRoom_iff_of_empty hs hfits (hseries ▸ hle)
  · intro before item after st hlisted acc placed hholds hestimate hgood hle hfits hweighs hempty
    have hwanted : wanted max (estimate lookup known item.1 item.2 acc.explored).1 =
        some st.series :=
      wanted_eq_some_iff.2 ⟨st, hestimate, hgood, hle, rfl⟩
    have hwaits : acc.pool.Refuses max st.series ↔
        ¬ (st.series ≠ max ∨ ∃ s ∈ acc.pool, s.changeable = true ∧ Word.add s.head max < max) := by
      rw [Pool.refuses_iff_of_empty hfits hle hempty]
      push Not
      rfl
    have hout : out = after.foldl (placeTarget p lookup known max)
        (placeTarget p lookup known max acc item) := by
      simp only [out, acc, start, run, hlisted, List.foldl_append, List.foldl_cons]
    have hplaced : placed ↔ st.series ≠ max ∨
        ∃ s ∈ acc.pool, s.changeable = true ∧ Word.add s.head max < max := by
      simp only [placed, hout]
      exact (placed_iff_not_refuses hlisted hwanted hholds hweighs).trans
        ((not_congr hwaits).trans not_not)
    refine ⟨hplaced, fun hrange => hplaced.trans (or_congr_right ?_)⟩
    refine exists_congr fun s => and_congr_right fun hs => and_congr_right fun _ => ?_
    rw [Word.add_eq (hrange s hs)]
    omega

def unloaded : Pool := [{ id := "s0", changeable := true }]

def fullTarget : TargetsByJob := .ofList [("node", [{ hash := 1, job := "node", url := "" }])]

def answersFull : Lookup Unit where
  explore _ _ e := (some { health := .good, series := 100, scrapes := 5 }, e)
  estimate _ _ _ := some { health := .good, series := 100, scrapes := 5 }

/-- Space is asked for a target that does not fit on an empty shard, and the target is not placed
though it has no more series than the maximum. -/
theorem run_denies_full_target :
    (¬ ∀ (p : Placement) (lookup : Lookup Unit) (known : StatusMap) (max : Int)
        (active : TargetsByJob) (pool : Pool) (draws : Draws), 0 < max →
      ∀ e ∈ refusals p lookup known max active.listed ⟨pool, 0, 0, draws, ()⟩, ∀ s : ShardState,
        s.head = 0 → s.hasRoom e.2 max = true) ∧
    ¬ ∀ (p : Placement) (lookup : Lookup Unit) (known : StatusMap) (max : Int)
        (active : TargetsByJob) (pool : Pool) (draws : Draws), 0 < max →
      ∀ before item after st, active.listed = before ++ item :: after →
        let acc := before.foldl (placeTarget p lookup known max) ⟨pool, 0, 0, draws, ()⟩
        acc.pool.holds item.2.hash = false →
        (estimate lookup known item.1 item.2 acc.explored).1 = some st → st.health = .good →
        st.series ≤ max → (∃ s ∈ acc.pool, s.changeable = true ∧ s.head = 0) →
        ∃ j, (placeTarget p lookup known max acc item).pool.copies item.2.hash j =
          some (.fresh st.series) := by
  have hdenied : refusals .firstFit answersFull ∅ 100 fullTarget.listed
      ⟨unloaded, 0, 0, { ahead := [] }, ()⟩ = [(1, 100)] := by
    decide +kernel
  refine ⟨fun hall => ?_, fun hall => ?_⟩
  · have hroom := hall .firstFit answersFull ∅ 100 fullTarget unloaded { ahead := [] } (by decide)
      (1, 100) (by simp [hdenied]) { id := "s0", changeable := true } rfl
    exact absurd hroom (by decide)
  · have hnot : (placeTarget .firstFit answersFull ∅ 100 ⟨unloaded, 0, 0, { ahead := [] }, ()⟩
        ("node", { hash := 1, job := "node", url := "" })).pool = unloaded := by
      decide +kernel
    obtain ⟨j, hfresh⟩ := hall .firstFit answersFull ∅ 100 fullTarget unloaded { ahead := [] }
      (by decide) [] ("node", { hash := 1, job := "node", url := "" }) []
      { health := .good, series := 100, scrapes := 5 } (by decide +kernel) (by decide +kernel) rfl
      rfl le_rfl ⟨_, List.mem_cons_self, rfl, rfl⟩
    rw [List.foldl_nil, hnot, Pool.copies_eq_none_of_holds (by decide +kernel)] at hfresh
    cases hfresh

end Placement

/-! ## Growing in vain -/

theorem GlobalStatus.merged_in_range {most : Int} {pool : Pool} {h : Fingerprint}
    {estimate : Option Status} (hpool : ∀ s ∈ pool, s.Within most) (hmost : 0 ≤ most)
    (hestimate : ∀ st, estimate = some st → 0 ≤ st.series ∧ st.series ≤ most) :
    0 ≤ (merged pool estimate h).series ∧ (merged pool estimate h).series ≤ most := by
  by_cases hreported : pool.IsReported h
  · obtain ⟨best, hbest, heq⟩ := merged_of_reported hreported estimate
    obtain ⟨s, hs, hcopy⟩ := hbest.exists_mem
    rw [heq]
    exact hpool s hs h best (ShardState.get?_of_copy? hcopy).2
  · rw [merged_of_not_reported hreported]
    cases estimate with
    | none => exact ⟨le_rfl, hmost⟩
    | some st => exact hestimate st rfl

/-- No remembered status has a negative number of series or more than `most`, and a good one of the
target says the same as exploration. -/
structure Recalls (answer : Fingerprint → Option Status) (most : Int) (h : Fingerprint)
    (known : StatusMap) : Prop where
  within : ∀ k st, known.get? k = some st → 0 ≤ st.series ∧ st.series ≤ most
  agrees : ∀ st, known.get? h = some st → st.health = .good →
    ∃ a, answer h = some a ∧ a.series = st.series

theorem recalls_empty (answer : Fingerprint → Option Status) (most : Int) (h : Fingerprint) :
    Recalls answer most h ∅ where
  within k st hst := by cases hst
  agrees st hst := by cases hst

theorem Lookup.Answers.explore_in_range {lookup : Lookup σ} {answer : Fingerprint → Option Status}
    {most : Int} (hanswers : lookup.Answers answer most) (job : String) (t : Target) (e : σ)
    (st : Status) (hst : (lookup.explore job t e).1 = some st) : 0 ≤ st.series ∧ st.series ≤ most :=
  hanswers.within t.hash st (hanswers.explore job t e ▸ hst)

namespace Placement

variable {p : Placement} {lookup : Lookup σ} {known : StatusMap} {acc : Outcome σ}
  {answer : Fingerprint → Option Status} {h : Fingerprint} {a : Status} {most : Int}

theorem wanted_of_recalls (hanswers : lookup.Answers answer most)
    (hknown : Recalls answer most h known) (ha : answer h = some a) (hgood : a.health = .good)
    (hle : a.series ≤ max) (job : String) {t : Target} (ht : t.hash = h) (e : σ) :
    wanted max (estimate lookup known job t e).1 = some a.series := by
  subst ht
  rw [wanted_eq_some_iff]
  unfold estimate
  split
  · rename_i st hst
    split
    · rename_i hst'
      obtain ⟨a', ha', hseries⟩ := hknown.agrees st hst hst'
      obtain rfl : a' = a := Option.some.inj (ha'.symm.trans ha)
      exact ⟨st, rfl, hst', hseries ▸ hle, hseries.symm⟩
    · exact ⟨a, (hanswers.explore ..).trans ha, hgood, hle, rfl⟩
  · exact ⟨a, (hanswers.explore ..).trans ha, hgood, hle, rfl⟩

theorem full_waits (hanswers : lookup.Answers answer most) (hknown : Recalls answer most h known)
    (ha : answer h = some a) (hgood : a.health = .good) (hfull : a.series = max)
    (items : List (String × Target)) (acc : Outcome σ) (hpool : acc.pool.Bounded max most)
    (hrefuses : acc.pool.Refuses max max) (hholds : acc.pool.holds h = false) :
    (items.foldl (placeTarget p lookup known max) acc).pool.Bounded max most ∧
      (items.foldl (placeTarget p lookup known max) acc).pool.holds h = false ∧
      (h ∈ items.map (·.2.hash) → (h, max) ∈ refusals p lookup known max items acc) := by
  induction items generalizing acc with
  | nil => exact ⟨hpool, hholds, fun hmem => by cases hmem⟩
  | cons item items ih =>
      have hpool' := bounded_placeTarget (p := p) hknown.within hanswers.explore_in_range hpool item
      have hseries : 0 ≤ max ∧ max ≤ most := hfull ▸ hanswers.within h a ha
      -- Placing another target only lets loads grow, so that there is no more room than before.
      have hstill := hrefuses.grows hpool.toHeadroom hseries (grows_placeTarget (p := p)
        hknown.within hanswers.explore_in_range hpool.toHeadroom item)
      rw [List.foldl_cons, List.map_cons, refusals]
      by_cases hitem : item.2.hash = h
      · have hwanted := wanted_of_recalls hanswers hknown ha hgood hfull.le item.1 hitem
          acc.explored
        rw [hfull] at hwanted
        rcases placeTarget_of_wanted (p := p) hwanted (hitem ▸ hholds) with
          ⟨hroom, -⟩ | ⟨-, hsame, hrefused⟩
        · exact absurd hrefuses hroom
        · obtain ⟨hbounded, hwaits, -⟩ := ih _ hpool' hstill (hsame ▸ hholds)
          refine ⟨hbounded, hwaits, fun _ => ?_⟩
          rw [hrefused, hitem]
          exact List.mem_cons_self
      · have hwaits : (placeTarget p lookup known max acc item).pool.holds h = false :=
          (holds_placeTarget_of_ne (Ne.symm hitem)).trans hholds
        obtain ⟨hbounded, hwaits', hasked⟩ := ih _ hpool' hstill hwaits
        refine ⟨hbounded, hwaits', fun hmem => List.mem_append_right _ (hasked ?_)⟩
        exact (List.mem_cons.1 hmem).resolve_left (Ne.symm hitem)

end Placement

/-- The target is active and no shard holds it, exploration answers as `answer` does, no load is
negative, and no sum that planning forms leaves the range of its numbers. -/
structure Round.Offers (max : Int) (answer : Fingerprint → Option Status) (most : Int) (r : Round σ)
    (h : Fingerprint) : Prop where
  answers : r.lookup.Answers answer most
  active : h ∈ r.active.hashes
  not_held : r.pool.holds h = false
  bounded : r.pool.Bounded max most
  loads : ∀ s ∈ r.pool, 0 ≤ s.head
  total_le : r.pool.length + r.pool.burden max + r.active.listed.length * most + max ≤
    Word.maxSigned

namespace Planner

variable {planner : Planner} {r : Round σ} {answer : Fingerprint → Option Status}
  {h : Fingerprint} {a : Status} {most : Int}

theorem shed_of_offers (hmax : 0 < planner.policy.maxSeries) (hle : planner.policy.maxSeries ≤ most)
    (hr : r.Offers planner.policy.maxSeries answer most h) :
    (planner.shed r).pool.Bounded planner.policy.maxSeries most ∧
      (planner.shed r).pool.Refuses planner.policy.maxSeries planner.policy.maxSeries ∧
      0 ≤ (planner.shed r).needSpace ∧
      (planner.shed r).needSpace ≤ r.pool.burden planner.policy.maxSeries := by
  obtain ⟨hcleaned, hbounded⟩ := Cleanup.grows_run r.active.hashes hr.bounded
  have hrested := Shedding.run_comes_to_rest hmax hbounded
  obtain ⟨-, hneed, hburden⟩ := Shedding.needSpace_run_eq hmax hbounded
  have hrefuses : r.pool.Refuses planner.policy.maxSeries planner.policy.maxSeries := by
    intro s hs
    have hload := hr.loads s hs
    have hroom : s.hasRoom planner.policy.maxSeries planner.policy.maxSeries = true ↔ _ :=
      (hr.bounded.shard s hs).hasRoom_iff ⟨hmax.le, hle⟩
    rw [ShardState.accepts, Bool.and_eq_false_iff, ← Bool.not_eq_true, ← Bool.not_eq_true, hroom]
    exact .inr (by omega)
  exact ⟨hrested.bounded, hrefuses.grows hr.bounded.toHeadroom ⟨hmax.le, hle⟩
    (hcleaned.trans hrested.grows), hneed, hburden.trans (hcleaned.burden_le hr.bounded.within)⟩

theorem needSpace_of_offers (hmax : 0 < planner.policy.maxSeries)
    (hle : planner.policy.maxSeries ≤ most) (hr : r.Offers planner.policy.maxSeries answer most h)
    (hknown : Recalls answer most h planner.known)
    (hunmet : (h, planner.policy.maxSeries) ∈ planner.unmet r) :
    planner.policy.maxSeries ≤ (planner.planRound r).needSpace ∧
      (planner.planRound r).needSpace ≤ r.pool.burden planner.policy.maxSeries +
        r.active.listed.length * most := by
  obtain ⟨-, -, hneed, hburden⟩ := shed_of_offers hmax hle hr
  have hrange : ∀ n ∈ (planner.unmet r).map (·.2), 0 ≤ n ∧ n ≤ most := by
    intro n hn
    obtain ⟨e, he, rfl⟩ := List.mem_map.1 hn
    exact Placement.range_of_mem_refusals hknown.within hr.answers.explore_in_range he
  have hlow : planner.policy.maxSeries ≤ ((planner.unmet r).map (·.2)).sum :=
    List.single_le_sum (fun n hn => (hrange n hn).1) _ (List.mem_map_of_mem hunmet)
  have hhigh : ((planner.unmet r).map (·.2)).sum ≤ r.active.listed.length * most := by
    have hcount : ((planner.unmet r).length : Int) ≤ r.active.listed.length :=
      Int.ofNat_le.2 (Placement.length_refusals_le _ _)
    have hsum := List.sum_le_card_nsmul _ most fun n hn => (hrange n hn).2
    rw [List.length_map, nsmul_eq_mul] at hsum
    exact hsum.trans (mul_le_mul_of_nonneg_right hcount (hmax.le.trans hle))
  have htotal := hr.total_le
  have hmin : Word.minSigned ≤ 0 := by decide
  rw [needSpace_planRound, Word.wrap_eq_self ⟨by omega, by omega⟩]
  omega

/-- In one cycle the target is not placed, one more shard is asked for, if there may be one, and
what is remembered for the next cycle says the same of the target. -/
theorem plan_in_vain (hmax : 0 < planner.policy.maxSeries)
    (hr : r.Offers planner.policy.maxSeries answer most h)
    (hknown : Recalls answer most h planner.known) (ha : answer h = some a) (hgood : a.health = .good)
    (hfull : a.series = planner.policy.maxSeries) :
    ((planner.planRound r).pool.holds h = false ∧
      (h, planner.policy.maxSeries) ∈ planner.unmet r ∧
      Min.min ((r.pool.changeableCount : Int) + 1) planner.policy.maxShards ≤
        (planner.planRound r).desiredShards) ∧
      Recalls answer most h (planner.planRound r).planner.known := by
  have hle : planner.policy.maxSeries ≤ most := hfull ▸ (hr.answers.within h a ha).2
  obtain ⟨hshed, hrefuses, -⟩ := shed_of_offers hmax hle hr
  obtain ⟨hfilled, hwaits, hasked⟩ := Placement.full_waits hr.answers hknown ha hgood hfull
    r.active.listed ⟨(planner.shed r).pool, 0, 0, planner.draws, r.explored⟩ hshed hrefuses
    (holds_shed hr.not_held)
  have hunmet : (h, planner.policy.maxSeries) ∈ planner.unmet r := hasked hr.active
  have hmoves := filled_moves r.lookup r.now r.active planner r.pool r.explored
  have hplanned := (hmoves.grows hfilled).2
  have hheld := (hmoves.holds_eq h).trans hwaits
  refine ⟨⟨holds_planRound.trans hwaits, hunmet, ?_⟩, fun k st hst => ?_, fun st hst _ => ?_⟩
  · obtain ⟨hlow, hhigh⟩ := needSpace_of_offers hmax hle hr hknown hunmet
    have hcount := (filled_steps r.lookup r.active planner r.pool r.explored).changeableCount_eq
    have hlength := List.countP_le_length (p := (·.changeable)) (l := r.pool)
    have htotal := hr.total_le
    have hdesired : (planner.planRound r).desiredShards =
        (resize planner.policy r.now (planner.planRound r).needSpace
          (planner.filled r.lookup r.active r.pool r.explored)).2.1 := rfl
    rw [hdesired, resize, if_neg (by simp; omega), if_pos (by omega), hcount]
    exact Scaling.add_one_le_grow hmax (by omega) (by
      rw [Pool.changeableCount]
      omega)
  · rw [planRound, plan_known] at hst
    obtain ⟨job, rfl⟩ := GlobalStatus.exists_of_get?_merge hst
    refine GlobalStatus.merged_in_range hplanned.within (hmax.le.trans hle) fun st hst => ?_
    exact hr.answers.within k st ((hr.answers.estimate ..).symm.trans hst)
  · rw [planRound, plan_known] at hst
    obtain ⟨job, rfl⟩ := GlobalStatus.exists_of_get?_merge hst
    -- Nobody holds the target, so it is the estimate that is remembered.
    refine ⟨a, ha, ?_⟩
    rw [GlobalStatus.merged_of_not_held hheld, hr.answers.estimate, ha]
    rfl

/-- As long as a target with as many series as the maximum is offered, the pool grows for it in
every cycle, and in none is it placed. -/
theorem plan_grows_in_vain {rounds : List (Round σ)} (hmax : 0 < planner.policy.maxSeries)
    (hrounds : ∀ r ∈ rounds, r.Offers planner.policy.maxSeries answer most h)
    (hknown : planner.known = ∅) (ha : answer h = some a) (hgood : a.health = .good)
    (hfull : a.series = planner.policy.maxSeries) (before : List (Round σ)) (r : Round σ)
    (hpart : before ++ [r] <+: rounds) :
    ((planner.through before).planRound r).pool.holds h = false ∧
      (h, planner.policy.maxSeries) ∈ (planner.through before).unmet r ∧
      Min.min ((r.pool.changeableCount : Int) + 1) planner.policy.maxShards ≤
        ((planner.through before).planRound r).desiredShards := by
  have hmem : ∀ r' ∈ before ++ [r], r'.Offers planner.policy.maxSeries answer most h :=
    fun r' hr' => hrounds r' (hpart.subset hr')
  have hthrough : (planner.through before).policy = planner.policy ∧
      Recalls answer most h (planner.through before).known := by
    refine List.foldlRecOn (motive := fun p : Planner =>
      p.policy = planner.policy ∧ Recalls answer most h p.known) _ _ ⟨rfl, ?_⟩ ?_
    · rw [hknown]
      exact recalls_empty answer most h
    · rintro p ⟨hpolicy, hrecalls⟩ r' hr'
      refine ⟨hpolicy, ?_⟩
      have hoffers := hmem r' (List.mem_append_left _ hr')
      exact (plan_in_vain (hpolicy ▸ hmax) (hpolicy ▸ hoffers) hrecalls ha hgood
        (hpolicy ▸ hfull)).2
  obtain ⟨hpolicy, hrecalls⟩ := hthrough
  have hoffers := hmem r (by simp)
  have hcycle := (plan_in_vain (hpolicy ▸ hmax) (hpolicy ▸ hoffers) hrecalls ha hgood
    (hpolicy ▸ hfull)).1
  rwa [hpolicy] at hcycle

/-- Two empty shards are one too few again, as one was. -/
example :
    let planner : Planner :=
      { policy := ⟨100, 16, .ofSecs 0, .ofSecs 15⟩, draws := { ahead := [] } }
    let offer (pool : Pool) : Round Unit :=
      { lookup := Placement.answersFull, active := Placement.fullTarget, pool, explored := () }
    let first := planner.planRound (offer Placement.unloaded)
    let second := first.planner.planRound (offer (Placement.unloaded ++ Placement.unloaded))
    (first.placed, first.desiredShards) = (0, 2) ∧
      (second.placed, second.desiredShards) = (0, 3) := by
  decide +kernel

end Planner

end ScrapeFleet
