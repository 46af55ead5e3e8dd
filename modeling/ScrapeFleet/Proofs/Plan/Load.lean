import ScrapeFleet.Plan.Tier
import ScrapeFleet.Proofs.Decimal.Rounding
import ScrapeFleet.Proofs.Plan.Shedding
import ScrapeFleet.Proofs.Plan.Wrapping

/-!
# Loads only grow

A shard that gives a target away keeps its load until the target has settled
elsewhere, and one that receives a target stays below the maximum.  So in the course
of planning loads only grow, a shard at the maximum receives nothing, and who has
no room for a target has none later.  Whether a shard is overloaded does not change
at all.
-/

namespace ScrapeFleet

variable {max : Int}

/-! ## Overloaded shards are full -/

namespace Tier

theorem not_isReached {head : Int} (hmax : 0 < max) (hhead : head < max) {t : Tier}
    (ht : t ∈ all) : isReached head max t = false := by
  have hload : Binary64.nearest head ≤ Binary64.nearest max :=
    Binary64.nearest_mono (by exact_mod_cast hhead.le)
  have hpos : 0 < Binary64.nearest max := by
    have hone : Binary64.nearest 1 ≤ Binary64.nearest max :=
      Binary64.nearest_mono (by exact_mod_cast hmax)
    rw [Binary64.nearest_one] at hone
    linarith
  have hratio : Binary64.nearest (Binary64.nearest head / Binary64.nearest max) ≤ 1 := by
    calc Binary64.nearest (Binary64.nearest head / Binary64.nearest max)
        ≤ Binary64.nearest 1 := Binary64.nearest_mono ((div_le_one hpos).2 hload)
      _ = 1 := Binary64.nearest_one
  have hrate : 1 < tenths t.rateTenths := by
    revert t
    decide +kernel
  rw [isReached, if_neg hmax.ne', decide_eq_false_iff_not, not_le]
  exact hratio.trans_lt hrate

theorem expected_nonneg (hmax : 0 ≤ max) (t : Tier) : 0 ≤ t.expected max := by
  have hload : (0 : Rat) ≤ Binary64.nearest max := Binary64.nearest_nonneg (by exact_mod_cast hmax)
  have hrate : 0 ≤ tenths t.expectedTenths := Binary64.nearest_nonneg (by positivity)
  have hproduct := Binary64.nearest_nonneg (mul_nonneg hrate hload)
  rw [expected, truncate]
  refine le_max_of_le_right (le_min ?_ (by decide))
  exact Int.tdiv_nonneg (Rat.num_nonneg.2 hproduct) (Int.natCast_nonneg _)

theorem of?_eq_none {head : Int} (hmax : 0 < max) (hhead : head < max) : of? head max = none :=
  List.find?_eq_none.2 fun _ ht => by simp [not_isReached hmax hhead ht]

end Tier

/-! ## One shard -/

namespace Shedding

theorem movableSeries_eq_wrap (s : ShardState) :
    s.movableSeries = Word.wrap ((candidates s).map (·.2)).sum := by
  have hvalues : s.scraping.values.filter (·.isMovable) =
      (s.scraping.entries.filter (·.2.isMovable)).map (·.2) := by
    rw [SortedMap.values, List.filter_map]
    rfl
  rw [ShardState.movableSeries, hvalues, Word.sum_eq_wrap, candidates, List.map_map, List.map_map]
  rfl

theorem mem_candidates {s : ShardState} {h : Fingerprint} {series : Int} :
    (h, series) ∈ candidates s ↔
      ∃ st, s.scraping.get? h = some st ∧ st.isMovable = true ∧ st.series = series := by
  simp [candidates, SortedMap.get?_eq_some_iff, and_assoc]

theorem nodup_candidates (s : ShardState) : ((candidates s).map (·.1)).Nodup := by
  rw [candidates, List.map_map]
  exact (List.filter_sublist.map _).nodup s.scraping.nodup_keys

end Shedding

namespace ShardState

/-- The shards differ in their assignments only. -/
structure Alike (s s' : ShardState) : Prop where
  changeable : s'.changeable = s.changeable
  runtime : s'.runtime = s.runtime
  scraping : s'.scraping = s.scraping

theorem Alike.refl (s : ShardState) : s.Alike s := ⟨rfl, rfl, rfl⟩

def movable (s : ShardState) : Int := ((Shedding.candidates s).map (·.2)).sum

/-- What can become of a shard: its load grows, but not to the maximum, and of what may be moved
it gets nothing if it is full. -/
structure Grows (max : Int) (s s' : ShardState) : Prop where
  changeable : s'.changeable = s.changeable
  head_le : s.head ≤ s'.head
  head_lt : s'.head = s.head ∨ s'.head < max
  movable_le : max ≤ s.head → s'.movable ≤ s.movable

variable {s s' s'' : ShardState} {most series : Int}

theorem Alike.grows (h : s.Alike s') : s.Grows max s' where
  changeable := h.changeable
  head_le := by rw [head, head, h.runtime]
  head_lt := .inl (by rw [head, head, h.runtime])
  movable_le _ := by rw [movable, movable, Shedding.candidates, Shedding.candidates, h.scraping]

theorem Alike.trans (h : s.Alike s') (h' : s'.Alike s'') : s.Alike s'' where
  changeable := h'.changeable.trans h.changeable
  runtime := h'.runtime.trans h.runtime
  scraping := h'.scraping.trans h.scraping

theorem Grows.trans (h : s.Grows max s') (h' : s'.Grows max s'') : s.Grows max s'' where
  changeable := h'.changeable.trans h.changeable
  head_le := h.head_le.trans h'.head_le
  head_lt := by
    have h₁ := h.head_lt
    have h₂ := h'.head_lt
    have h₃ := h'.head_le
    omega
  movable_le hfull := (h'.movable_le (hfull.trans h.head_le)).trans (h.movable_le hfull)

structure Headroom (most : Int) (s : ShardState) : Prop where
  le_head : Word.minSigned ≤ s.head
  head_add_le : s.head + most ≤ Word.maxSigned

theorem Headroom.add_eq (hs : s.Headroom most) (hseries : 0 ≤ series ∧ series ≤ most) :
    Word.add s.head series = s.head + series := by
  obtain ⟨hlow, hhigh⟩ := hs
  exact Word.add_eq ⟨by omega, by omega⟩

theorem Headroom.hasRoom_iff (hs : s.Headroom most) (hseries : 0 ≤ series ∧ series ≤ most) :
    s.hasRoom series max = true ↔ s.head + series < max := by
  rw [hasRoom, hs.add_eq hseries, decide_eq_true_eq]

theorem Headroom.grows (hs : s.Headroom most) (hmost : max + most ≤ Word.maxSigned)
    (h : s.Grows max s') : s'.Headroom most := by
  obtain ⟨hlow, hhigh⟩ := hs
  refine ⟨hlow.trans h.head_le, ?_⟩
  rcases h.head_lt with hhead | hhead <;> omega

theorem hasRoom_of_accepts (hs : s.accepts series max = true) : s.hasRoom series max = true := by
  rw [accepts, Bool.and_eq_true] at hs
  exact hs.2

theorem add_lt_of_accepts (hs : s.accepts series max = true) : Word.add s.head series < max :=
  of_decide_eq_true (hasRoom_of_accepts hs)

theorem Grows.accepts_eq_false (h : s.Grows max s') (hhead : s.Headroom most)
    (hhead' : s'.Headroom most) (hseries : 0 ≤ series ∧ series ≤ most)
    (hs : s.accepts series max = false) : s'.accepts series max = false := by
  have hle := h.head_le
  rw [← Bool.not_eq_true] at hs ⊢
  simp only [accepts, h.changeable, Bool.and_eq_true, hhead.hasRoom_iff hseries,
    hhead'.hasRoom_iff hseries] at hs ⊢
  exact fun hroom => hs ⟨hroom.1, by omega⟩

def Within (most : Int) (s : ShardState) : Prop :=
  ∀ h st, s.scraping.get? h = some st → 0 ≤ st.series ∧ st.series ≤ most

theorem Within.release (hs : s.Within most) (h : Fingerprint) : (s.release h).Within most := by
  intro k st hst
  rw [get?_release] at hst
  split at hst
  · obtain ⟨old, hold, rfl⟩ := Option.map_eq_some_iff.1 hst
    exact hs k old hold
  · exact hs k st hst

theorem Within.receive (hs : s.Within most) (h : Fingerprint)
    (hseries : 0 ≤ series ∧ series ≤ most) : (s.receive h series).Within most := by
  intro k st hst
  rw [get?_receive] at hst
  split at hst
  · obtain rfl := Option.some.inj hst
    exact hseries
  · exact hs k st hst

theorem Within.of_candidate (hs : s.Within most) {c : Fingerprint × Int}
    (hc : c ∈ Shedding.candidates s) : 0 ≤ c.2 ∧ c.2 ≤ most := by
  obtain ⟨st, hget, -, hseries⟩ := Shedding.mem_candidates.1 hc
  exact hseries ▸ hs c.1 st hget

theorem Within.movable_nonneg (hs : s.Within most) : 0 ≤ s.movable := by
  refine List.sum_nonneg fun n hn => ?_
  obtain ⟨c, hc, rfl⟩ := List.mem_map.1 hn
  exact (hs.of_candidate hc).1

theorem movable_le_of_subset (hs : s.Within most)
    (hsub : Shedding.candidates s' ⊆ Shedding.candidates s) : s'.movable ≤ s.movable := by
  have hsubperm := List.subperm_of_subset (Shedding.nodup_candidates s').of_map hsub
  obtain ⟨l, hperm, hsublist⟩ := hsubperm
  rw [movable, movable, ← (hperm.map _).sum_eq]
  refine (hsublist.map _).sum_le_sum fun n hn => ?_
  obtain ⟨c, hc, rfl⟩ := List.mem_map.1 hn
  exact (hs.of_candidate hc).1

/-- What may be moved from a full shard, in a sum that does not wrap around. -/
def burden (max : Int) (s : ShardState) : Int := if max ≤ s.head then s.movable else 0

theorem Within.burden_nonneg (hs : s.Within most) (max : Int) : 0 ≤ s.burden max := by
  unfold burden
  split
  · exact hs.movable_nonneg
  · exact le_rfl

theorem Grows.burden_le (h : s.Grows max s') (hs : s.Within most) :
    s'.burden max ≤ s.burden max := by
  by_cases hfull : max ≤ s'.head
  · have hbefore : max ≤ s.head := by
      rcases h.head_lt with hhead | hhead <;> omega
    rw [burden, burden, if_pos hfull, if_pos hbefore]
    exact h.movable_le hbefore
  · rw [burden, if_neg hfull]
    exact hs.burden_nonneg max

theorem grows_release (hs : s.Within most) (h : Fingerprint) : s.Grows max (s.release h) := by
  refine ⟨rfl, le_rfl, .inl rfl, fun _ => movable_le_of_subset hs ?_⟩
  rintro ⟨k, series⟩ hc
  obtain ⟨st, hget, hmovable, hseries⟩ := Shedding.mem_candidates.1 hc
  rw [get?_release] at hget
  split at hget
  · obtain ⟨old, -, rfl⟩ := Option.map_eq_some_iff.1 hget
    simp [Status.released, Status.isMovable] at hmovable
  · exact Shedding.mem_candidates.2 ⟨st, hget, hmovable, hseries⟩

theorem grows_receive (hhead : s.Headroom most) (hseries : 0 ≤ series ∧ series ≤ most)
    (haccepts : s.accepts series max = true) (h : Fingerprint) :
    s.Grows max (s.receive h series) := by
  have hroom := (hhead.hasRoom_iff hseries).1 (hasRoom_of_accepts haccepts)
  refine ⟨rfl, ?_, .inr (add_lt_of_accepts haccepts), fun hfull => ?_⟩
  · change s.head ≤ Word.add s.head series
    rw [hhead.add_eq hseries]
    omega
  · omega

end ShardState

/-! ## What may be moved -/

namespace Shedding

theorem candidates_release (s : ShardState) (h : Fingerprint) :
    candidates (s.release h) = (candidates s).filter (·.1 ≠ h) := by
  have hentries : ∀ l : List (Fingerprint × Status),
      ((l.map fun e => (e.1, if e.1 = h then e.2.released else e.2)).filter (·.2.isMovable)).map
          (fun e => (e.1, e.2.series)) =
        ((l.filter (·.2.isMovable)).map fun e => (e.1, e.2.series)).filter (·.1 ≠ h) := by
    intro l
    induction l with
    | nil => rfl
    | cons e l ih =>
        rw [List.map_cons, List.filter_cons, List.filter_cons]
        by_cases hkey : e.1 = h
        · have hreleased : e.2.released.isMovable = false := by
            simp [Status.released, Status.isMovable]
          simp only [hkey, if_true, hreleased, Bool.false_eq_true, if_false, ih]
          split <;> simp [hkey]
        · simp only [hkey, if_false]
          split
          · rw [List.map_cons, List.map_cons, List.filter_cons, ih]
            simp [hkey]
          · exact ih
  exact hentries s.scraping.entries

theorem candidates_release_of_split {s : ShardState} {before after : List (Fingerprint × Int)}
    {h : Fingerprint} {series : Int} (hs : candidates s = before ++ (h, series) :: after) :
    candidates (s.release h) = before ++ after := by
  have hnodup := nodup_candidates s
  rw [hs, List.map_append, List.map_cons, List.nodup_append, List.nodup_cons] at hnodup
  obtain ⟨-, ⟨hafter, -⟩, hbefore⟩ := hnodup
  have hkeep : ∀ l : List (Fingerprint × Int), h ∉ l.map (·.1) → l.filter (·.1 ≠ h) = l := by
    intro l hl
    refine List.filter_eq_self.2 fun c hc => ?_
    simp only [ne_eq, decide_not, Bool.not_eq_true', decide_eq_false_iff_not]
    rintro rfl
    exact hl (List.mem_map_of_mem hc)
  have hbefore' : h ∉ before.map (·.1) := fun hmem => hbefore h hmem h List.mem_cons_self rfl
  rw [candidates_release, hs, List.filter_append, List.filter_cons, hkeep before hbefore',
    hkeep after hafter]
  simp

end Shedding

/-! ## The whole pool -/

namespace Pool

variable {pool pool' pool'' : Pool} {i j : Nat} {s s' t : ShardState} {most series : Int}

theorem exists_getElem?_of_forall₂ {R : ShardState → ShardState → Prop}
    (h : List.Forall₂ R pool pool') (hs : pool[i]? = some s) : ∃ s', pool'[i]? = some s' ∧ R s s' := by
  obtain ⟨hi, rfl⟩ := List.getElem?_eq_some_iff.1 hs
  have hi' : i < pool'.length := h.length_eq ▸ hi
  exact ⟨pool'[i], List.getElem?_eq_getElem hi', h.get hi hi'⟩

/-- Position by position, the shards of a pool have become those of another one. -/
def Grows (max : Int) (pool pool' : Pool) : Prop :=
  List.Forall₂ (ShardState.Grows max) pool pool'

/-- `most` more than the maximum or than any load is still a signed 64-bit number, so the room for
at most as many series is found without wrapping around. -/
structure Headroom (max most : Int) (pool : Pool) : Prop where
  max_add_le : max + most ≤ Word.maxSigned
  shard : ∀ s ∈ pool, s.Headroom most

def burden (max : Int) (pool : Pool) : Int := (pool.map (·.burden max)).sum

/-- There is headroom for `most` series, no status has more or a negative number, and what may be
moved from the full shards adds up to a signed 64-bit number. -/
structure Bounded (max most : Int) (pool : Pool) : Prop extends Headroom max most pool where
  within : ∀ s ∈ pool, s.Within most
  burden_le : pool.burden max ≤ Word.maxSigned

theorem Bounded.burden_fits (hpool : pool.Bounded max most) (hs : s ∈ pool) :
    s.burden max ≤ Word.maxSigned := by
  refine (List.single_le_sum (fun n hn => ?_) _ (List.mem_map_of_mem hs)).trans hpool.burden_le
  obtain ⟨t, ht, rfl⟩ := List.mem_map.1 hn
  exact (hpool.within t ht).burden_nonneg max

theorem Grows.burden_le (h : pool.Grows max pool') (hwithin : ∀ s ∈ pool, s.Within most) :
    pool'.burden max ≤ pool.burden max := by
  induction h with
  | nil => exact le_rfl
  | cons hgrows _ ih =>
      rw [List.forall_mem_cons] at hwithin
      simp only [burden, List.map_cons, List.sum_cons] at ih ⊢
      exact add_le_add (hgrows.burden_le hwithin.1) (ih hwithin.2)

theorem Grows.refl (max : Int) (pool : Pool) : pool.Grows max pool :=
  List.forall₂_same.2 fun s _ => (ShardState.Alike.refl s).grows

theorem Grows.getElem? (h : pool.Grows max pool') (hs' : pool'[i]? = some s') :
    ∃ s, pool[i]? = some s ∧ s.Grows max s' :=
  exists_getElem?_of_forall₂ h.flip hs'

theorem Grows.exists_getElem? (h : pool.Grows max pool') (hs : pool[i]? = some s) :
    ∃ s', pool'[i]? = some s' ∧ s.Grows max s' :=
  exists_getElem?_of_forall₂ h hs

theorem grows_iff : pool.Grows max pool' ↔ pool'.length = pool.length ∧
    ∀ (i : Nat) (s s' : ShardState), pool[i]? = some s → pool'[i]? = some s' →
      s.Grows max s' := by
  rw [Grows, List.forall₂_iff_get]
  constructor
  · rintro ⟨hlength, hget⟩
    refine ⟨hlength.symm, fun i s s' hs hs' => ?_⟩
    obtain ⟨hi, rfl⟩ := List.getElem?_eq_some_iff.1 hs
    obtain ⟨hi', rfl⟩ := List.getElem?_eq_some_iff.1 hs'
    exact hget i hi hi'
  · rintro ⟨hlength, hget⟩
    exact ⟨hlength.symm, fun i hi hi' =>
      hget i _ _ (List.getElem?_eq_getElem hi) (List.getElem?_eq_getElem hi')⟩

theorem Grows.trans (h : pool.Grows max pool') (h' : pool'.Grows max pool'') :
    pool.Grows max pool'' := by
  refine grows_iff.2 ⟨h'.length_eq.symm.trans h.length_eq.symm, fun i s s'' hs hs'' => ?_⟩
  obtain ⟨s', hs', hgrows'⟩ := h'.getElem? hs''
  obtain ⟨t, ht, hgrows⟩ := h.getElem? hs'
  obtain rfl : t = s := Option.some.inj (ht.symm.trans hs)
  exact hgrows.trans hgrows'

theorem grows_modify {f : ShardState → ShardState}
    (hf : ∀ s, pool[i]? = some s → s.Grows max (f s)) : pool.Grows max (pool.modify i f) := by
  refine grows_iff.2 ⟨List.length_modify .., fun k s s' hs hs' => ?_⟩
  rw [List.getElem?_modify, hs] at hs'
  by_cases hik : i = k
  · subst hik
    obtain rfl : f s = s' := by simpa using hs'
    exact hf s hs
  · obtain rfl : s = s' := by simpa [hik] using hs'
    exact (ShardState.Alike.refl s).grows

theorem Headroom.grows (hpool : pool.Headroom max most) (h : pool.Grows max pool') :
    pool'.Headroom max most := by
  refine ⟨hpool.max_add_le, fun s' hs' => ?_⟩
  obtain ⟨i, hi⟩ := List.mem_iff_getElem?.1 hs'
  obtain ⟨s, hs, hgrows⟩ := h.getElem? hi
  exact (hpool.shard s (List.mem_of_getElem? hs)).grows hpool.max_add_le hgrows

theorem Bounded.grows (hpool : pool.Bounded max most) (h : pool.Grows max pool')
    (hwithin : ∀ s ∈ pool', s.Within most) : pool'.Bounded max most where
  toHeadroom := hpool.toHeadroom.grows h
  within := hwithin
  burden_le := (h.burden_le hpool.within).trans hpool.burden_le

theorem Bounded.modify {f : ShardState → ShardState} (hpool : pool.Bounded max most)
    (hgrows : pool.Grows max (pool.modify i f))
    (hf : ∀ s, s.Within most → (f s).Within most) : Bounded max most (pool.modify i f) := by
  refine hpool.grows hgrows fun t ht => ?_
  obtain ⟨k, hk⟩ := List.mem_iff_getElem?.1 ht
  rw [List.getElem?_modify] at hk
  obtain ⟨s, hs, rfl⟩ := Option.map_eq_some_iff.1 hk
  have hwithin := hpool.within s (List.mem_of_getElem? hs)
  split
  · exact hf s hwithin
  · exact hwithin

/-- What is full in the one pool is the same in the other one, assignments apart. -/
def Spares (max : Int) (pool pool' : Pool) (i : Nat) : Prop :=
  ∀ s, pool[i]? = some s → max ≤ s.head → ∃ s', pool'[i]? = some s' ∧ s.Alike s'

theorem spares_of_eq (max : Int) (h : pool'[i]? = pool[i]?) : pool.Spares max pool' i :=
  fun s hs _ => ⟨s, h.trans hs, .refl s⟩

theorem Spares.refl (max : Int) (pool : Pool) (i : Nat) : pool.Spares max pool i :=
  spares_of_eq max rfl

theorem Spares.trans (h : pool.Spares max pool' i) (h' : pool'.Spares max pool'' i) :
    pool.Spares max pool'' i := by
  intro s hs hfull
  obtain ⟨s', hs', halike⟩ := h s hs hfull
  have hfull' : max ≤ s'.head := by rwa [ShardState.head, halike.runtime]
  obtain ⟨s'', hs'', halike'⟩ := h' s' hs' hfull'
  exact ⟨s'', hs'', halike.trans halike'⟩

theorem grows_receive (hpool : pool.Headroom max most) (hseries : 0 ≤ series ∧ series ≤ most)
    (ht : pool[j]? = some t) (haccepts : t.accepts series max = true) (h : Fingerprint) :
    pool.Grows max (pool.modify j (·.receive h series)) ∧
      ∀ k, pool.Spares max (pool.modify j (·.receive h series)) k := by
  have hhead := hpool.shard t (List.mem_of_getElem? ht)
  refine ⟨grows_modify fun t' ht' => ?_, fun k => ?_⟩
  · obtain rfl : t = t' := Option.some.inj (ht.symm.trans ht')
    exact ShardState.grows_receive hhead hseries haccepts h
  · by_cases hjk : j = k
    · subst hjk
      intro u hu hfull
      obtain rfl : t = u := Option.some.inj (ht.symm.trans hu)
      have hroom := (hhead.hasRoom_iff hseries).1 (ShardState.hasRoom_of_accepts haccepts)
      omega
    · exact spares_of_eq max (by simp [hjk])

def Refuses (max : Int) (pool : Pool) (series : Int) : Prop :=
  ∀ s ∈ pool, s.accepts series max = false

theorem Grows.accepts_eq_false (h : pool.Grows max pool') (hpool : pool.Headroom max most)
    (hseries : 0 ≤ series ∧ series ≤ most) (hs' : pool'[i]? = some s')
    (hrefuses : ∀ s, pool[i]? = some s → s.accepts series max = false) :
    s'.accepts series max = false := by
  obtain ⟨s, hs, hgrows⟩ := h.getElem? hs'
  exact hgrows.accepts_eq_false (hpool.shard s (List.mem_of_getElem? hs))
    ((hpool.grows h).shard s' (List.mem_of_getElem? hs')) hseries (hrefuses s hs)

theorem Refuses.grows (hrefuses : pool.Refuses max series) (hpool : pool.Headroom max most)
    (hseries : 0 ≤ series ∧ series ≤ most) (h : pool.Grows max pool') :
    pool'.Refuses max series := by
  intro s' hs'
  obtain ⟨i, hi⟩ := List.mem_iff_getElem?.1 hs'
  exact h.accepts_eq_false hpool hseries hi fun s hs => hrefuses s (List.mem_of_getElem? hs)

end Pool

namespace Planning

variable {pool pool' : Pool} {most : Int}

theorem Move.grows {i j : Nat} (move : Move max i j pool pool') (hpool : pool.Bounded max most) :
    pool.Grows max pool' ∧ pool'.Bounded max most ∧ ∀ k ≠ i, pool.Spares max pool' k := by
  cases move with
  | @intro s t h st hne hs hc hget hsettled ht haccepts =>
      have hseries := hpool.within s (List.mem_of_getElem? hs) h st hget
      have ht' : (pool.modify i (·.release h))[j]? = some t := by simp [hne, ht]
      have hreleased : pool.Grows max (pool.modify i (·.release h)) :=
        Pool.grows_modify fun s hs =>
          ShardState.grows_release (hpool.within s (List.mem_of_getElem? hs)) h
      have hbounded := hpool.modify hreleased fun s hs => hs.release h
      obtain ⟨hgrows, hspares⟩ := Pool.grows_receive hbounded.toHeadroom hseries ht' haccepts h
      refine ⟨hreleased.trans hgrows, ?_, fun k hk => ?_⟩
      · exact hbounded.modify hgrows fun s hs => hs.receive h hseries
      · have hother : (pool.modify i (·.release h))[k]? = pool[k]? := by simp [Ne.symm hk]
        exact (Pool.spares_of_eq max hother).trans (hspares k)

theorem Moves.grows (moves : Moves max pool pool') (hpool : pool.Bounded max most) :
    pool.Grows max pool' ∧ pool'.Bounded max most := by
  induction moves with
  | refl => exact ⟨.refl max pool, hpool⟩
  | tail _ step ih =>
      obtain ⟨i, j, move⟩ := step
      obtain ⟨hgrows, hbounded, -⟩ := move.grows ih.2
      exact ⟨ih.1.trans hgrows, hbounded⟩

end Planning

end ScrapeFleet
