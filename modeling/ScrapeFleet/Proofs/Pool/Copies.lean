import Mathlib.Data.Finset.Card
import Mathlib.Data.Finset.Filter
import Mathlib.Data.Finset.Range
import Mathlib.Data.List.Range
import Mathlib.Logic.Function.Basic
import ScrapeFleet.Plan.Pool

/-!
# Copies of one target

A planning cycle treats every target by itself: what matters is where in the
pool its copies are and in which state.  Only shards that may be changed count.
The copies of a target are a function of the position in the pool, and each
operation on a pool updates that function in at most one place.
-/

namespace ScrapeFleet

/-! ## States of a copy -/

namespace Status

def isNormal (st : Status) : Bool := st.state = .normal

def isMoving (st : Status) : Bool := st.state = .inTransfer

def isSettled (st : Status) : Bool := st.isNormal && st.isStable

def released (st : Status) : Status := { st with state := .inTransfer, scrapes := 0 }

theorem isNormal_iff {st : Status} : st.isNormal = true ↔ st.state = .normal := by
  simp [isNormal]

theorem isMoving_eq_false {st : Status} (hst : st.isNormal = true) : st.isMoving = false := by
  simp [isMoving, isNormal_iff.1 hst]

end Status

/-! ## Copies on one shard -/

namespace ShardState

def copy? (s : ShardState) (h : Fingerprint) : Option Status :=
  if s.changeable then s.scraping.get? h else none

def has (p : Status → Bool) (h : Fingerprint) (s : ShardState) : Bool := (s.copy? h).any p

theorem copy?_eq_get? {s : ShardState} (hs : s.changeable = true) (h : Fingerprint) :
    s.copy? h = s.scraping.get? h := by
  simp [copy?, hs]

theorem get?_of_copy? {s : ShardState} {h : Fingerprint} {st : Status}
    (hst : s.copy? h = some st) : s.changeable = true ∧ s.scraping.get? h = some st := by
  unfold copy? at hst
  split at hst
  · exact ⟨‹_›, hst⟩
  · cases hst

theorem get?_release (s : ShardState) (h k : Fingerprint) :
    (s.release h).scraping.get? k =
      if k = h then (s.scraping.get? k).map Status.released else s.scraping.get? k := by
  simp only [release, SortedMap.get?_modify]
  rfl

theorem get?_receive (s : ShardState) (h k : Fingerprint) (series : Int) :
    (s.receive h series).scraping.get? k =
      if k = h then some (.fresh series) else s.scraping.get? k := by
  simp only [receive, SortedMap.get?_insert]

theorem copy?_release (s : ShardState) (h k : Fingerprint) :
    (s.release h).copy? k = if k = h then (s.copy? k).map Status.released else s.copy? k := by
  unfold copy?
  rw [get?_release]
  change (if s.changeable = true then _ else _) = _
  split <;> simp

theorem copy?_receive {s : ShardState} (hs : s.changeable = true) (h k : Fingerprint)
    (series : Int) :
    (s.receive h series).copy? k =
      if k = h then some (.fresh series) else s.scraping.get? k := by
  rw [← get?_receive]
  exact copy?_eq_get? (s := s.receive h series) hs k

theorem copy?_filter {s : ShardState} (hs : s.changeable = true)
    (p : Fingerprint → Status → Bool) (h : Fingerprint) :
    { s with scraping := s.scraping.filter p }.copy? h = (s.copy? h).filter (p h) := by
  rw [copy?_eq_get? hs, ← SortedMap.get?_filter]
  exact copy?_eq_get? (s := { s with scraping := s.scraping.filter p }) hs h

@[simp] theorem changeable_release (s : ShardState) (h : Fingerprint) :
    (s.release h).changeable = s.changeable := rfl

@[simp] theorem changeable_receive (s : ShardState) (h : Fingerprint) (series : Int) :
    (s.receive h series).changeable = s.changeable := rfl

theorem changeable_of_accepts {s : ShardState} {series max : Int}
    (hs : s.accepts series max = true) : s.changeable = true := by
  simp only [accepts, Bool.and_eq_true] at hs
  exact hs.1

end ShardState

/-! ## Copies in a pool -/

namespace Pool

/-- The copies of a target by position. -/
def copies (pool : Pool) (h : Fingerprint) (i : Nat) : Option Status :=
  pool[i]?.bind (·.copy? h)

def countCopies (pool : Pool) (p : Status → Bool) (h : Fingerprint) : Nat :=
  pool.countP (·.has p h)

/-- The number of shards that own a target. -/
def owners (pool : Pool) (h : Fingerprint) : Nat := pool.countCopies Status.isNormal h

theorem copies_eq_some_iff {pool : Pool} {h : Fingerprint} {i : Nat} {st : Status} :
    pool.copies h i = some st ↔
      ∃ s, pool[i]? = some s ∧ s.changeable = true ∧ s.scraping.get? h = some st := by
  unfold copies
  rw [Option.bind_eq_some_iff]
  constructor
  · rintro ⟨s, hs, hst⟩
    exact ⟨s, hs, ShardState.get?_of_copy? hst⟩
  · rintro ⟨s, hs, hc, hst⟩
    exact ⟨s, hs, by rw [ShardState.copy?_eq_get? hc, hst]⟩

theorem copies_eq_get? {pool : Pool} {i : Nat} {s : ShardState} (hs : pool[i]? = some s)
    (hc : s.changeable = true) (h : Fingerprint) :
    pool.copies h i = s.scraping.get? h := by
  simp [copies, hs, ShardState.copy?_eq_get? hc]

theorem copies_eq_copy? {pool : Pool} {i : Nat} {s : ShardState} (hs : pool[i]? = some s)
    (h : Fingerprint) : pool.copies h i = s.copy? h := by
  simp [copies, hs]

theorem lt_length_of_copies {pool : Pool} {h : Fingerprint} {i : Nat} {st : Status}
    (hst : pool.copies h i = some st) : i < pool.length := by
  obtain ⟨s, hs, -⟩ := copies_eq_some_iff.1 hst
  exact (List.getElem?_eq_some_iff.1 hs).1

theorem get?_eq_none_of_holds {pool : Pool} {h : Fingerprint} (hh : pool.holds h = false) {i : Nat}
    {s : ShardState} (hs : pool[i]? = some s) : s.scraping.get? h = none := by
  have hnone := List.any_eq_false.1 hh s (List.mem_of_getElem? hs)
  simpa [SortedMap.contains] using hnone

theorem copies_eq_none_of_holds {pool : Pool} {h : Fingerprint} (hh : pool.holds h = false)
    (i : Nat) : pool.copies h i = none := by
  cases hst : pool.copies h i with
  | none => rfl
  | some st =>
      obtain ⟨s, hs, -, hget⟩ := copies_eq_some_iff.1 hst
      rw [get?_eq_none_of_holds hh hs] at hget
      cases hget

theorem any_copies (pool : Pool) (p : Status → Bool) (h : Fingerprint) (i : Nat) :
    (pool.copies h i).any p = pool[i]?.any (·.has p h) := by
  unfold copies
  cases pool[i]? <;> rfl

private theorem countP_eq_range (pool : Pool) (q : ShardState → Bool) :
    pool.countP q = (List.range pool.length).countP fun i => pool[i]?.any q := by
  induction pool with
  | nil => rfl
  | cons s pool ih =>
      rw [List.length_cons, List.range_succ_eq_map, List.countP_cons, List.countP_cons,
        List.countP_map, ih]
      rfl

theorem countCopies_eq_card (pool : Pool) (p : Status → Bool) (h : Fingerprint) :
    pool.countCopies p h =
      ((Finset.range pool.length).filter fun i => (pool.copies h i).any p).card := by
  rw [countCopies, countP_eq_range, List.countP_eq_length_filter,
    ← List.toFinset_card_of_nodup (List.nodup_range.filter _)]
  congr 1
  ext i
  simp only [List.mem_toFinset, List.mem_filter, List.mem_range, Finset.mem_filter,
    Finset.mem_range, any_copies]

/-! ## Copies after each operation -/

theorem copies_modify (pool : Pool) (i : Nat) (f : ShardState → ShardState) (h : Fingerprint) :
    copies (pool.modify i f) h =
      Function.update (pool.copies h) i (pool[i]?.bind fun s => (f s).copy? h) := by
  funext k
  by_cases hk : k = i
  · subst hk
    cases hs : pool[k]? <;> simp [copies, hs]
  · rw [Function.update_of_ne hk]
    simp [copies, Ne.symm hk]

theorem copies_set {pool : Pool} {i : Nat} (hi : i < pool.length) (s : ShardState)
    (h : Fingerprint) :
    copies (pool.set i s) h = Function.update (pool.copies h) i (s.copy? h) := by
  funext k
  by_cases hk : k = i
  · subst hk
    simp [copies, hi]
  · rw [Function.update_of_ne hk]
    simp [copies, Ne.symm hk]

theorem copies_release (pool : Pool) (i : Nat) (h k : Fingerprint) :
    copies (pool.modify i (·.release h)) k =
      if k = h then Function.update (pool.copies h) i ((pool.copies h i).map Status.released)
      else pool.copies k := by
  rw [copies_modify]
  simp only [ShardState.copy?_release]
  split
  · rename_i hk
    rw [hk, copies, Option.map_bind]
    rfl
  · exact Function.update_eq_self i (pool.copies k)

theorem copies_receive {pool : Pool} {j : Nat} {t : ShardState} (ht : pool[j]? = some t)
    (hc : t.changeable = true) (h k : Fingerprint) (series : Int) :
    copies (pool.modify j (·.receive h series)) k =
      if k = h then Function.update (pool.copies h) j (some (.fresh series))
      else pool.copies k := by
  rw [copies_modify, ht, Option.bind_some, ShardState.copy?_receive hc]
  split
  · rename_i hk
    rw [hk]
  · rw [← copies_eq_get? ht hc, Function.update_eq_self]

theorem copies_move {pool : Pool} {i j : Nat} {t : ShardState} (hne : i ≠ j)
    (ht : pool[j]? = some t) (hc : t.changeable = true) (h k : Fingerprint) (series : Int) :
    copies ((pool.modify i (·.release h)).modify j (·.receive h series)) k =
      if k = h then
        Function.update
          (Function.update (pool.copies h) i ((pool.copies h i).map Status.released))
          j (some (.fresh series))
      else pool.copies k := by
  have ht' : (pool.modify i (·.release h))[j]? = some t := by simp [hne, ht]
  rw [copies_receive ht' hc, copies_release, if_pos rfl, copies_release]
  split
  · rfl
  · rfl

end Pool

end ScrapeFleet
