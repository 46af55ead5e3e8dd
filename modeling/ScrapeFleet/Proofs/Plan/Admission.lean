import ScrapeFleet.Proofs.Plan.Memory
import ScrapeFleet.Proofs.Plan.Receipts

/-!
# Admission of new targets

A target that no shard holds is placed at most once, and only on a good estimate, which is
that of the last cycle or else an answer of exploration.  Nobody asks for a target that
some shard holds or that has a good estimate already.  As loads only grow, the shards
that have refused a target still refuse it when all the others have been placed.
-/

namespace ScrapeFleet

open Planning

structure Inquiry where
  job : String
  target : Target
  answer : Option Status
  deriving DecidableEq, Repr

/-- Exploration that keeps a record of what it is asked. -/
def Lookup.recorded {σ : Type} (lookup : Lookup σ) : Lookup (σ × List Inquiry) where
  explore job t e :=
    let (answer, explored) := lookup.explore job t e.1
    (answer, explored, e.2 ++ [⟨job, t, answer⟩])
  estimate job h e := lookup.estimate job h e.1

namespace Placement

variable {σ : Type} {p : Placement} {lookup : Lookup σ} {known : StatusMap} {max : Int}
  {pool now : Pool} {asked : List Inquiry} {log : List Receipt}
  {denied : List (Fingerprint × Int)} {h : Fingerprint} {series : Int}

def inquiries (p : Placement) (lookup : Lookup σ) (known : StatusMap) (max : Int)
    (active : TargetsByJob) (pool : Pool) (draws : Draws) (explored : σ) : List Inquiry :=
  (p.run lookup.recorded known max active pool draws (explored, [])).explored.2

def Outcome.unrecorded (acc : Outcome (σ × List Inquiry)) : Outcome σ :=
  { acc with explored := acc.explored.1 }

@[simp] theorem pool_unrecorded (acc : Outcome (σ × List Inquiry)) :
    acc.unrecorded.pool = acc.pool := rfl

def KnownGood (known : StatusMap) (h : Fingerprint) : Prop :=
  ∃ st, known.get? h = some st ∧ st.health = .good

/-- A good estimate of the series: that of the last cycle, or else an answer of exploration. -/
def Estimated (known : StatusMap) (asked : List Inquiry) (h : Fingerprint) (series : Int) : Prop :=
  ∃ st : Status, st.health = .good ∧ st.series = series ∧
    (known.get? h = some st ∨
      ¬ KnownGood known h ∧ ∃ q ∈ asked, q.target.hash = h ∧ q.answer = some st)

/-- A target that may be placed with `series` in a pool. -/
structure Admissible (known : StatusMap) (max : Int) (pool : Pool) (asked : List Inquiry)
    (h : Fingerprint) (series : Int) : Prop where
  not_held : pool.holds h = false
  le_max : series ≤ max
  estimated : Estimated known asked h series

/-! ## The record -/

theorem estimate_cases (known : StatusMap) (lookup : Lookup σ) (job : String) (t : Target) :
    (∃ st, known.get? t.hash = some st ∧ st.health = .good ∧
      ∀ e, estimate lookup known job t e = (some st, e)) ∨
    ¬ KnownGood known t.hash ∧ ∀ e, estimate lookup known job t e = lookup.explore job t e := by
  unfold estimate KnownGood
  cases hknown : known.get? t.hash with
  | none => simp
  | some st => by_cases hgood : st.health = .good <;> simp [hgood]

theorem estimate_recorded (lookup : Lookup σ) (known : StatusMap) (job : String) (t : Target)
    (e : σ × List Inquiry) :
    (estimate lookup.recorded known job t e).1 = (estimate lookup known job t e.1).1 ∧
      (estimate lookup.recorded known job t e).2.1 = (estimate lookup known job t e.1).2 := by
  unfold estimate
  split
  · split <;> exact ⟨rfl, rfl⟩
  · exact ⟨rfl, rfl⟩

theorem place_unrecorded (max : Int) (h : Fingerprint) (estimate : Option Status)
    (acc : Outcome (σ × List Inquiry)) :
    (place p max h estimate acc).unrecorded = place p max h estimate acc.unrecorded := by
  rw [place_eq, place_eq]
  cases wanted max estimate with
  | none => rfl
  | some series =>
      rcases hpick : p.pick acc.pool series max acc.draws with ⟨_ | j, draws⟩ <;>
        simp [Outcome.unrecorded, hpick]

/-- Placement does the same whether or not its questions are recorded. -/
theorem placeTarget_recorded (acc : Outcome (σ × List Inquiry)) (item : String × Target) :
    (placeTarget p lookup.recorded known max acc item).unrecorded =
      placeTarget p lookup known max acc.unrecorded item := by
  obtain ⟨hanswer, hexplored⟩ := estimate_recorded lookup known item.1 item.2 acc.explored
  cases hholds : acc.pool.holds item.2.hash with
  | true => simp [placeTarget, hholds]
  | false =>
      rw [placeTarget_of_not_held hholds, placeTarget_of_not_held (by simpa using hholds),
        place_unrecorded, hanswer]
      simp [Outcome.unrecorded, hexplored]

theorem record_placeTarget (acc : Outcome (σ × List Inquiry)) (item : String × Target) :
    (placeTarget p lookup.recorded known max acc item).explored =
      if acc.pool.holds item.2.hash then acc.explored
      else (estimate lookup.recorded known item.1 item.2 acc.explored).2 := by
  cases hholds : acc.pool.holds item.2.hash with
  | true => simp [placeTarget, hholds]
  | false =>
      rw [placeTarget_of_not_held hholds, place_eq, if_neg Bool.false_ne_true]
      split
      · rfl
      · split <;> rfl

/-! ## What holds in the course of placement -/

/-- What has become of a pool when some targets have been asked for, placed or denied. -/
structure Sound (known : StatusMap) (max : Int) (pool : Pool) (asked : List Inquiry)
    (log : List Receipt) (denied : List (Fingerprint × Int)) (now : Pool) : Prop where
  length_eq : now.length = pool.length
  entries : ∀ i s s', pool[i]? = some s → now[i]? = some s' → s'.changeable = s.changeable ∧
    ∀ h st, s'.scraping.get? h = some st ↔
      s.scraping.get? h = some st ∨ ∃ series, ⟨i, h, series⟩ ∈ log ∧ st = .fresh series
  holds_eq : ∀ h, now.holds h = (decide (h ∈ log.map (·.hash)) || pool.holds h)
  inquiry : ∀ q ∈ asked, pool.holds q.target.hash = false ∧ ¬ KnownGood known q.target.hash
  receipt : ∀ r ∈ log, Admissible known max pool asked r.hash r.series ∧
    ∃ s, pool[r.dest]? = some s ∧ s.changeable = true
  nodup : (log.map (·.hash)).Nodup
  denial : ∀ e ∈ denied, Admissible known max pool asked e.1 e.2

theorem Sound.refl (known : StatusMap) (max : Int) (pool : Pool) :
    Sound known max pool [] [] [] pool where
  length_eq := rfl
  entries i s s' hs hs' := by
    obtain rfl : s = s' := Option.some.inj (hs.symm.trans hs')
    simp
  holds_eq h := by simp
  inquiry := by simp
  receipt := by simp
  nodup := List.nodup_nil
  denial := by simp

theorem Admissible.mono {asked' : List Inquiry} (hsub : asked ⊆ asked')
    (hadm : Admissible known max pool asked h series) :
    Admissible known max pool asked' h series := by
  obtain ⟨hholds, hle, st, hgood, hseries, hfrom⟩ := hadm
  refine ⟨hholds, hle, st, hgood, hseries, hfrom.imp_right ?_⟩
  rintro ⟨hunknown, q, hq, hanswer⟩
  exact ⟨hunknown, q, hsub hq, hanswer⟩

theorem Sound.ask (hsound : Sound known max pool asked log denied now) (q : Inquiry)
    (hholds : pool.holds q.target.hash = false) (hunknown : ¬ KnownGood known q.target.hash) :
    Sound known max pool (asked ++ [q]) log denied now where
  length_eq := hsound.length_eq
  entries := hsound.entries
  holds_eq := hsound.holds_eq
  inquiry q' hq' := by
    rcases List.mem_append.1 hq' with hq' | hq'
    · exact hsound.inquiry q' hq'
    · rw [List.mem_singleton.1 hq']
      exact ⟨hholds, hunknown⟩
  receipt r hr := (hsound.receipt r hr).imp_left (.mono (List.subset_append_left _ _))
  nodup := hsound.nodup
  denial e he := (hsound.denial e he).mono (List.subset_append_left _ _)

theorem Sound.deny (hsound : Sound known max pool asked log denied now)
    (hadm : Admissible known max pool asked h series) :
    Sound known max pool asked log (denied ++ [(h, series)]) now where
  length_eq := hsound.length_eq
  entries := hsound.entries
  holds_eq := hsound.holds_eq
  inquiry := hsound.inquiry
  receipt := hsound.receipt
  nodup := hsound.nodup
  denial e he := by
    rcases List.mem_append.1 he with he | he
    · exact hsound.denial e he
    · rw [List.mem_singleton.1 he]
      exact hadm

theorem Sound.not_held (hsound : Sound known max pool asked log denied now)
    (hholds : now.holds h = false) : h ∉ log.map (·.hash) ∧ pool.holds h = false := by
  rwa [hsound.holds_eq, Bool.or_eq_false_iff, decide_eq_false_iff_not] at hholds

theorem Sound.place (hsound : Sound known max pool asked log denied now)
    (hadm : Admissible known max pool asked h series) (hholds : now.holds h = false) {j : Nat}
    {t : ShardState} (ht : now[j]? = some t) (haccepts : t.accepts series max = true) :
    Sound known max pool asked (log ++ [⟨j, h, series⟩]) denied
      (now.modify j (·.receive h series)) where
  length_eq := by rw [List.length_modify, hsound.length_eq]
  entries i s s' hs hs' := by
    rw [List.getElem?_modify] at hs'
    obtain ⟨u, hu, rfl⟩ := Option.map_eq_some_iff.1 hs'
    obtain ⟨hc, hentries⟩ := hsound.entries i s u hs hu
    by_cases hji : j = i
    · rw [if_pos hji]
      refine ⟨hc, fun k st => ?_⟩
      rw [ShardState.get?_receive]
      by_cases hk : k = h
      · have hnew : ∀ n, (⟨i, h, n⟩ : Receipt) ∉ log := fun n hmem =>
          (hsound.not_held hholds).1 (List.mem_map.2 ⟨_, hmem, rfl⟩)
        simp [hk, hji, Pool.get?_eq_none_of_holds hadm.not_held hs, hnew, eq_comm]
      · simp [hk, hentries]
    · rw [if_neg hji]
      refine ⟨hc, fun k st => (hentries k st).trans ?_⟩
      simp [Ne.symm hji]
  holds_eq k := by
    rw [Pool.holds_receive ht, hsound.holds_eq, ← Bool.or_assoc]
    simp [Bool.or_comm, or_comm]
  inquiry := hsound.inquiry
  receipt r hr := by
    rcases List.mem_append.1 hr with hr | hr
    · exact hsound.receipt r hr
    · obtain rfl := List.mem_singleton.1 hr
      have hj : j < pool.length := hsound.length_eq ▸ (List.getElem?_eq_some_iff.1 ht).1
      have hs := List.getElem?_eq_getElem hj
      refine ⟨hadm, _, hs, ?_⟩
      rw [← (hsound.entries j _ t hs ht).1]
      exact ShardState.changeable_of_accepts haccepts
  nodup := by
    rw [List.map_append, List.nodup_append]
    refine ⟨hsound.nodup, List.nodup_singleton _, fun k hk k' hk' => ?_⟩
    rintro rfl
    rw [List.mem_singleton.1 hk'] at hk
    exact (hsound.not_held hholds).1 hk
  denial := hsound.denial

theorem admissible_of_wanted {answer : Option Status} (hholds : pool.holds h = false)
    (hfrom : ∀ st, answer = some st → known.get? h = some st ∨
      ¬ KnownGood known h ∧ ∃ q ∈ asked, q.target.hash = h ∧ q.answer = some st)
    (hwanted : wanted max answer = some series) : Admissible known max pool asked h series := by
  obtain ⟨st, hst, hgood, hle, rfl⟩ := wanted_eq_some_iff.1 hwanted
  exact ⟨hholds, hle, st, hgood, rfl, hfrom st hst⟩

theorem Sound.estimate {e : σ × List Inquiry} (hsound : Sound known max pool e.2 log denied now)
    (lookup : Lookup σ) (job : String) (t : Target) (hholds : pool.holds t.hash = false) :
    Sound known max pool (estimate lookup.recorded known job t e).2.2 log denied now ∧
      ∀ series, wanted max (Placement.estimate lookup.recorded known job t e).1 = some series →
        Admissible known max pool (Placement.estimate lookup.recorded known job t e).2.2 t.hash
          series := by
  obtain ⟨st, hknown, hgood, heq⟩ | ⟨hunknown, heq⟩ :=
    estimate_cases known lookup.recorded job t
  · rw [heq]
    exact ⟨hsound, fun series => admissible_of_wanted hholds fun _ hst => .inl (hst ▸ hknown)⟩
  · rw [heq]
    refine ⟨hsound.ask ⟨job, t, _⟩ hholds hunknown, fun series => admissible_of_wanted hholds ?_⟩
    intro st hst
    exact .inr ⟨hunknown, _, List.mem_append_right _ (List.mem_singleton_self _), rfl, hst⟩

theorem Sound.placeTarget {acc : Outcome (σ × List Inquiry)}
    (hsound : Sound known max pool acc.explored.2 log denied acc.pool) (p : Placement)
    (lookup : Lookup σ) (item : String × Target) :
    Sound known max pool (placeTarget p lookup.recorded known max acc item).explored.2
      (log ++ targetReceipts p lookup known max acc.unrecorded item)
      (denied ++ refused p lookup known max acc.unrecorded item)
      (Placement.placeTarget p lookup known max acc.unrecorded item).pool := by
  rw [record_placeTarget]
  cases hholds : acc.pool.holds item.2.hash with
  | true => simpa [targetReceipts, refused, Placement.placeTarget, hholds] using hsound
  | false =>
      obtain ⟨hasked, hadm⟩ :=
        hsound.estimate lookup item.1 item.2 (hsound.not_held hholds).2
      have hanswer := (estimate_recorded lookup known item.1 item.2 acc.explored).1
      have hnext : Placement.placeTarget p lookup known max acc.unrecorded item = _ :=
        placeTarget_of_not_held hholds
      rw [if_neg Bool.false_ne_true, hnext, place_eq, Outcome.unrecorded]
      dsimp only
      cases hwanted :
        wanted max (Placement.estimate lookup known item.1 item.2 acc.explored.1).1 with
      | none => simpa [targetReceipts, placeReceipts, refused, hholds, hwanted] using hasked
      | some series =>
          have hplaceable := hadm series (hanswer ▸ hwanted)
          rcases hpick : p.pick acc.pool series max acc.draws with ⟨_ | j, draws⟩
          · simpa [targetReceipts, placeReceipts, refused, hholds, hwanted, hpick]
              using hasked.deny hplaceable
          · obtain ⟨t, ht, haccepts⟩ := accepts_of_pick hpick
            simpa [targetReceipts, placeReceipts, refused, hholds, hwanted, hpick]
              using hasked.place hplaceable hholds ht haccepts

theorem Sound.foldl {acc : Outcome (σ × List Inquiry)}
    (hsound : Sound known max pool acc.explored.2 log denied acc.pool) (p : Placement)
    (lookup : Lookup σ) (items : List (String × Target)) :
    Sound known max pool
      (items.foldl (Placement.placeTarget p lookup.recorded known max) acc).explored.2
      (log ++ Receipt.collect (Placement.placeTarget p lookup known max)
        (targetReceipts p lookup known max) items acc.unrecorded)
      (denied ++ refusals p lookup known max items acc.unrecorded)
      (items.foldl (Placement.placeTarget p lookup known max) acc.unrecorded).pool := by
  induction items generalizing acc log denied with
  | nil => simpa [Receipt.collect, refusals] using hsound
  | cons item items ih =>
      have hstep := hsound.placeTarget p lookup item
      rw [← placeTarget_recorded, pool_unrecorded] at hstep
      have hrest := ih hstep
      rw [placeTarget_recorded, List.append_assoc, List.append_assoc] at hrest
      exact hrest

/-! ## Targets that are refused -/

section Range

variable {most : Int} (hknown : ∀ h st, known.get? h = some st → 0 ≤ st.series ∧ st.series ≤ most)
  (hlookup : ∀ job t e st, (lookup.explore job t e).1 = some st → 0 ≤ st.series ∧ st.series ≤ most)

include hknown hlookup

theorem range_of_wanted {job : String} {t : Target} {e : σ}
    (hwanted : wanted max (estimate lookup known job t e).1 = some series) :
    0 ≤ series ∧ series ≤ most := by
  obtain ⟨st, hst, -, -, rfl⟩ := wanted_eq_some_iff.1 hwanted
  obtain ⟨st', hget, -, heq⟩ | ⟨-, heq⟩ := estimate_cases known lookup job t
  · rw [heq, Option.some.injEq] at hst
    exact hst ▸ hknown t.hash st' hget
  · rw [heq] at hst
    exact hlookup job t e st hst

theorem placeTarget_in_range (p : Placement) (max : Int) (acc : Outcome σ) (item : String × Target) :
    (placeTarget p lookup known max acc item).pool = acc.pool ∨
      ∃ j t series, acc.pool[j]? = some t ∧ t.accepts series max = true ∧
        (0 ≤ series ∧ series ≤ most) ∧ (placeTarget p lookup known max acc item).pool =
          acc.pool.modify j (·.receive item.2.hash series) := by
  cases hholds : acc.pool.holds item.2.hash with
  | true => exact .inl (by rw [placeTarget, if_pos hholds])
  | false =>
      rw [placeTarget_of_not_held hholds, place_eq]
      cases hwanted : wanted max (estimate lookup known item.1 item.2 acc.explored).1 with
      | none => exact .inl rfl
      | some series =>
          dsimp only
          rcases hpick : p.pick acc.pool series max acc.draws with ⟨_ | j, draws⟩
          · exact .inl rfl
          · obtain ⟨t, ht, haccepts⟩ := accepts_of_pick hpick
            exact .inr ⟨j, t, series, ht, haccepts, range_of_wanted hknown hlookup hwanted, rfl⟩

theorem grows_placeTarget {acc : Outcome σ} (hpool : acc.pool.Headroom max most)
    (item : String × Target) :
    acc.pool.Grows max (placeTarget p lookup known max acc item).pool := by
  obtain heq | ⟨j, t, series, ht, haccepts, hseries, heq⟩ :=
    placeTarget_in_range hknown hlookup p max acc item
  · rw [heq]
    exact .refl max acc.pool
  · rw [heq]
    exact (Pool.grows_receive hpool hseries ht haccepts item.2.hash).1

theorem bounded_placeTarget {acc : Outcome σ} (hpool : acc.pool.Bounded max most)
    (item : String × Target) :
    (placeTarget p lookup known max acc item).pool.Bounded max most := by
  have hgrows := grows_placeTarget (p := p) hknown hlookup hpool.toHeadroom item
  obtain heq | ⟨j, t, series, ht, haccepts, hseries, heq⟩ :=
    placeTarget_in_range hknown hlookup p max acc item
  · rwa [heq]
  · rw [heq] at hgrows ⊢
    exact hpool.modify hgrows fun s hs => hs.receive _ hseries

theorem grows_foldl (items : List (String × Target)) {acc : Outcome σ}
    (hpool : acc.pool.Headroom max most) :
    acc.pool.Grows max (items.foldl (placeTarget p lookup known max) acc).pool := by
  induction items generalizing acc with
  | nil => exact .refl max _
  | cons item items ih =>
      have hgrows := grows_placeTarget (p := p) hknown hlookup hpool item
      exact hgrows.trans (ih (hpool.grows hgrows))

theorem range_of_mem_refused {acc : Outcome σ} {item : String × Target} {e : Fingerprint × Int}
    (he : e ∈ refused p lookup known max acc item) : 0 ≤ e.2 ∧ e.2 ≤ most := by
  unfold refused at he
  split at he
  · cases he
  · split at he
    · cases he
    · rename_i series hwanted
      split at he
      · rw [List.mem_singleton.1 he]
        exact range_of_wanted hknown hlookup hwanted
      · cases he

theorem range_of_mem_refusals {items : List (String × Target)} {acc : Outcome σ}
    {e : Fingerprint × Int} (he : e ∈ refusals p lookup known max items acc) :
    0 ≤ e.2 ∧ e.2 ≤ most := by
  induction items generalizing acc with
  | nil => cases he
  | cons item items ih =>
      rcases List.mem_append.1 he with he | he
      · exact range_of_mem_refused hknown hlookup he
      · exact ih he

theorem refuses_of_mem_refused {acc : Outcome σ} {item : String × Target} {e : Fingerprint × Int}
    (hpool : acc.pool.Headroom max most) (hweights : p = .weighted → acc.pool.Weighable max)
    (he : e ∈ refused p lookup known max acc item) : acc.pool.Refuses max e.2 := by
  have hseries := range_of_mem_refused hknown hlookup he
  have hweighs : p.Weighs acc.pool e.2 max := weighs_of_weighable hpool hseries hweights
  unfold refused at he
  split at he
  · cases he
  · split at he
    · cases he
    · split at he
      · rename_i hpick
        obtain rfl := List.mem_singleton.1 he
        exact (pick_eq_none_iff hweighs).1 hpick
      · cases he

theorem refuses_of_mem_refusals {items : List (String × Target)} {acc : Outcome σ}
    {e : Fingerprint × Int} (hpool : acc.pool.Headroom max most)
    (hweights : p = .weighted → acc.pool.Weighable max)
    (he : e ∈ refusals p lookup known max items acc) :
    (items.foldl (placeTarget p lookup known max) acc).pool.Refuses max e.2 := by
  induction items generalizing acc with
  | nil => cases he
  | cons item items ih =>
      rcases List.mem_append.1 he with he | he
      · have hrefuses := refuses_of_mem_refused hknown hlookup hpool hweights he
        exact hrefuses.grows hpool (range_of_mem_refused hknown hlookup he)
          (grows_foldl hknown hlookup (item :: items) hpool)
      · have hgrows := grows_placeTarget (p := p) hknown hlookup hpool item
        exact ih (hpool.grows hgrows) (fun hp => (hweights hp).grows hgrows) he

end Range

/-- Placement keeps all entries and adds fresh copies, one for each target that it places, on shards
that may be changed.  It neither places nor asks for a target that some shard holds, places none
without a good estimate, and asks for none with a good status.  The space that it wants is what the
denied targets need, in numbers that wrap around, and if there is headroom for all estimates, all
shards refuse these targets in the end too. -/
theorem run_admits (p : Placement) (lookup : Lookup σ) (known : StatusMap) (max : Int)
    (active : TargetsByJob) (pool : Pool) (draws : Draws) (explored : σ) :
    let out := p.run lookup known max active pool draws explored
    let log := p.receipts lookup known max active pool draws explored
    let asked := p.inquiries lookup known max active pool draws explored
    let denied := p.refusals lookup known max active.listed ⟨pool, 0, 0, draws, explored⟩
    (out.pool.length = pool.length ∧
        ∀ i s s', pool[i]? = some s → out.pool[i]? = some s' →
          s'.changeable = s.changeable ∧ ∀ h st, s'.scraping.get? h = some st ↔
            s.scraping.get? h = some st ∨
              ∃ series, ⟨i, h, series⟩ ∈ log ∧ st = .fresh series) ∧
      (∀ q ∈ asked, pool.holds q.target.hash = false ∧ ¬ KnownGood known q.target.hash) ∧
      (out.placed = log.length ∧ (log.map (·.hash)).Nodup ∧
        ∀ r ∈ log, Admissible known max pool asked r.hash r.series ∧
          ∃ s, pool[r.dest]? = some s ∧ s.changeable = true) ∧
      (out.needSpace = Word.sum (denied.map (·.2)) ∧
        (Word.Fits (denied.map (·.2)).sum → out.needSpace = (denied.map (·.2)).sum)) ∧
      ∀ e ∈ denied, Admissible known max pool asked e.1 e.2 ∧
        ∀ most, (∀ h st, known.get? h = some st → 0 ≤ st.series ∧ st.series ≤ most) →
          (∀ job t e st, (lookup.explore job t e).1 = some st →
            0 ≤ st.series ∧ st.series ≤ most) →
          pool.Headroom max most → (p = .weighted → pool.Weighable max) →
          ∀ s ∈ out.pool, s.accepts e.2 max = false := by
  intro out log asked denied
  let start : Outcome (σ × List Inquiry) := ⟨pool, 0, 0, draws, explored, []⟩
  have hstart : Sound known max pool start.explored.2 [] [] start.pool := .refl known max pool
  have hsound : Sound known max pool asked log denied out.pool :=
    hstart.foldl p lookup active.listed
  have hneed : out.needSpace = Word.sum (denied.map (·.2)) := needSpace_foldl active.listed _
  refine ⟨⟨hsound.length_eq, hsound.entries⟩, hsound.inquiry,
    ⟨(received_run p lookup known max active pool draws explored).2, hsound.nodup, hsound.receipt⟩,
    ⟨hneed, fun hfits => hneed.trans (Word.sum_eq hfits)⟩, fun e he => ⟨hsound.denial e he, ?_⟩⟩
  intro most hknown hlookup hpool hweights
  exact refuses_of_mem_refusals hknown hlookup hpool hweights he

def tight : Pool :=
  [{ id := "s0", changeable := true, runtime := { headSeries := 80 },
     scraping := .ofList [(1, { health := .good, series := 80, scrapes := 5 })] },
   { id := "s1", changeable := false }]

theorem run_admits_of_tight :
    let answer : String → Fingerprint → Option Status := fun job h =>
      if h = 4 then some { health := .good, series := 15 }
      else if job = "b" then some { health := .good, series := 5 } else none
    let lookup : Lookup Unit := ⟨fun job t e => (answer job t.hash, e), fun _ _ _ => none⟩
    let known : StatusMap := .ofList [(2, { health := .good, series := 10 })]
    let listed : List Fingerprint → List Target := fun hashes =>
      hashes.map fun h => { hash := h, job := "", url := "" }
    let active : TargetsByJob := .ofList [("a", listed [1, 2, 3]), ("b", listed [3, 4, 3])]
    let start : Outcome Unit := ⟨tight, 0, 0, { ahead := [] }, ()⟩
    let out := firstFit.run lookup known 100 active tight { ahead := [] } ()
    firstFit.receipts lookup known 100 active tight { ahead := [] } () = [⟨0, 2, 10⟩, ⟨0, 3, 5⟩] ∧
      (firstFit.inquiries lookup known 100 active tight { ahead := [] } ()).map (·.target.hash) =
        [3, 3, 4] ∧
      firstFit.refusals lookup known 100 active.listed start = [(4, 15)] ∧ out.needSpace = 15 ∧
      ∀ s ∈ out.pool, s.accepts 15 100 = false := by
  intro answer lookup known listed active start out
  have hdenied : firstFit.refusals lookup known 100 active.listed start = [(4, 15)] := by
    decide +kernel
  obtain ⟨-, -, -, ⟨-, hneed⟩, hall⟩ :=
    run_admits firstFit lookup known 100 active tight { ahead := [] } ()
  refine ⟨by decide +kernel, by decide +kernel, hdenied, ?_, ?_⟩
  · rw [hneed (by rw [hdenied]; decide), hdenied]
    decide
  · refine (hall (4, 15) (by rw [hdenied]; decide)).2 15 ?_ ?_ ?_ (fun hp => nomatch hp)
    · intro h st hst
      have hentries : ∀ e ∈ known.entries, 0 ≤ e.2.series ∧ e.2.series ≤ 15 := by decide +kernel
      exact hentries (h, st) (SortedMap.get?_eq_some_iff.1 hst)
    · intro job t e st hst
      simp only [lookup, answer] at hst
      split at hst
      · exact Option.some.inj hst ▸ by decide
      · split at hst
        · exact Option.some.inj hst ▸ by decide
        · cases hst
    · have hloads : ∀ s ∈ tight, Word.minSigned ≤ s.head ∧ s.head + 15 ≤ Word.maxSigned := by
        decide
      exact ⟨by decide, fun s hs => ⟨(hloads s hs).1, (hloads s hs).2⟩⟩

end Placement

end ScrapeFleet
