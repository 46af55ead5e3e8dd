import ScrapeFleet.Proofs.Plan.Cycle
import ScrapeFleet.Proofs.Plan.Demand

/-!
# Resizing comes to rest

The walk from the end of the pool leaves a shard that it counts as it is, and a shard
that it drains without anything to drain.  So a walk over what it leaves goes the same
way: it counts the same shards, moves nothing, and ends at the same place.
-/

namespace ScrapeFleet

/-! ## Pools that differ in their assignments -/

theorem ShardState.Alike.idleLongerThan_eq {s s' : ShardState} (h : s.Alike s') (maxIdle now : Nat) :
    s'.idleLongerThan maxIdle now = s.idleLongerThan maxIdle now := by
  rw [idleLongerThan, idleLongerThan, h.scraping, h.runtime]

namespace Pool

def Alike (pool pool' : Pool) : Prop := List.Forall₂ ShardState.Alike pool pool'

variable {max : Int} {pool pool' : Pool} {i : Nat} {s : ShardState}

theorem Alike.exists_getElem? (h : pool.Alike pool') (hs : pool[i]? = some s) :
    ∃ s', pool'[i]? = some s' ∧ s.Alike s' :=
  exists_getElem?_of_forall₂ h hs

theorem Alike.getElem?_eq_none (h : pool.Alike pool') (hs : pool[i]? = none) :
    pool'[i]? = none := by
  rw [List.getElem?_eq_none_iff] at hs ⊢
  exact h.length_eq ▸ hs

theorem Alike.grows (h : pool.Alike pool') : pool.Grows max pool' :=
  List.Forall₂.imp (fun _ _ halike => halike.grows) h

theorem Alike.spares (h : pool.Alike pool') (i : Nat) : pool.Spares max pool' i :=
  fun _ hs _ => h.exists_getElem? hs

theorem Bounded.alike {most : Int} (hpool : pool.Bounded max most) (h : pool.Alike pool') :
    pool'.Bounded max most := by
  refine hpool.grows h.grows fun s' hs' k st hst => ?_
  obtain ⟨i, hi⟩ := List.mem_iff_getElem?.1 hs'
  obtain ⟨s, hs, halike⟩ := exists_getElem?_of_forall₂ h.flip hi
  exact hpool.within s (List.mem_of_getElem? hs) k st (halike.scraping ▸ hst)

theorem Alike.holds_eq (h : pool.Alike pool') (k : Fingerprint) : pool'.holds k = pool.holds k := by
  induction h with
  | nil => rfl
  | cons halike _ ih =>
      simp only [holds, List.any_cons, halike.scraping] at ih ⊢
      rw [ih]

theorem Alike.changeableCount_eq (h : pool.Alike pool') :
    pool'.changeableCount = pool.changeableCount := by
  induction h with
  | nil => rfl
  | cons halike _ ih =>
      simp only [changeableCount, List.countP_cons, halike.changeable] at ih ⊢
      rw [ih]

end Pool

namespace Assignment

theorem alike_build (active : TargetsByJob) (pool : Pool) : pool.Alike (build active pool) := by
  refine List.forall₂_map_right_iff.2 (List.forall₂_same.2 fun s _ => ?_)
  split
  · exact ⟨rfl, rfl, rfl⟩
  · exact .refl s

theorem build_build (active : TargetsByJob) (pool : Pool) :
    build active (build active pool) = build active pool := by
  simp only [build, List.map_map]
  refine List.map_congr_left fun s _ => ?_
  cases hc : s.changeable <;> simp [hc]

end Assignment

/-! ## What moves leave alone -/

namespace Planning

variable {max : Int} {pool pool' : Pool}

theorem Moves.holds_eq (moves : Moves max pool pool') (h : Fingerprint) :
    pool'.holds h = pool.holds h := by
  induction moves with
  | refl => rfl
  | tail _ step ih =>
      obtain ⟨i, j, move⟩ := step
      rw [move.holds_eq, ih]

end Planning

/-! ## The walk over what it leaves -/

namespace Scaling

variable {max : Int} {maxIdle now : Nat} {pool pool' : Pool} {i : Nat} {s : ShardState}

theorem earlier_alike (h : pool.Alike pool') (i : Nat) : earlier pool' i = earlier pool i := by
  apply List.ext_getElem?
  intro k
  rw [getElem?_earlier, getElem?_earlier]
  cases hs : pool[k]? with
  | none => rw [h.getElem?_eq_none hs]
  | some s =>
      obtain ⟨s', hs', halike⟩ := h.exists_getElem? hs
      simp [hs', ShardState.head, halike.changeable, halike.runtime]

theorem verdict_alike (h : pool.Alike pool') (i : Nat) :
    verdict max maxIdle now pool' i = verdict max maxIdle now pool i := by
  cases hs : pool[i]? with
  | none => simp [verdict, hs, h.getElem?_eq_none hs]
  | some s =>
      obtain ⟨s', hs', halike⟩ := h.exists_getElem? hs
      have hplan : planDrain max pool' i s' = planDrain max pool i s := by
        have hearlier := earlier_alike h i
        rw [earlier, earlier] at hearlier
        rw [planDrain, planDrain, hearlier, halike.scraping]
      have hsettling : isSettling s' = isSettling s := by
        rw [isSettling, isSettling, halike.scraping]
      simp only [verdict, hs, hs', hplan, hsettling, halike.changeable, halike.idleLongerThan_eq]

theorem verdict_of_idle (hs : pool[i]? = some s) (hc : s.changeable = true)
    (hidle : s.idleLongerThan maxIdle now = true) :
    verdict max maxIdle now pool i = .counts := by
  simp [verdict, hs, hc, hidle]

theorem drainMoves_of_not_normal {entries : List (Fingerprint × Status)}
    (hentries : ∀ e ∈ entries, e.2.isNormal = false) (earlier : List (Bool × Int)) :
    drainMoves max entries earlier = some [] := by
  induction entries with
  | nil => rfl
  | cons e rest ih =>
      have hstate : e.2.state ≠ .normal := by
        simpa [Status.isNormal] using hentries e List.mem_cons_self
      rw [drainMoves, if_neg hstate]
      exact ih fun e he => hentries e (List.mem_cons_of_mem _ he)

theorem verdict_of_ownsNothing (hs : pool[i]? = some s) (howns : OwnsNothing s)
    (hidle : s.idleLongerThan maxIdle now = false) :
    verdict max maxIdle now pool i = .drains [] := by
  have hentries : ∀ e ∈ s.scraping.entries, e.2.isNormal = false :=
    fun e he => howns.2 e.1 e.2 (SortedMap.get?_eq_some_iff.2 he)
  have hsettling : isSettling s = false := by
    rw [isSettling, List.any_eq_false]
    intro st hst
    obtain ⟨e, he, rfl⟩ := List.mem_map.1 hst
    have hstate := hentries e he
    simp only [Status.isNormal] at hstate
    simp [hstate]
  simp [verdict, hs, howns.1, hidle, hsettling, planDrain, drainMoves_of_not_normal hentries]

theorem walk_again (n : Nat) (acc : Shrunk) {q : Pool} (transfers : Nat)
    (halike : (walk max maxIdle now n acc).pool.Alike q) :
    walk max maxIdle now n ⟨q, acc.desired, transfers⟩ =
      ⟨q, (walk max maxIdle now n acc).desired, transfers⟩ := by
  induction n generalizing acc with
  | zero => rfl
  | succ i ih =>
      cases hverdict : verdict max maxIdle now acc.pool i <;>
        simp only [walk_succ, hverdict] at halike ⊢
      case ends =>
        have hagain : verdict max maxIdle now q i = .ends := (verdict_alike halike i).trans hverdict
        simp only [hagain]
      case counts =>
        obtain ⟨s, hs, hc, hidle⟩ := verdict_eq_counts hverdict
        rw [← walk_getElem?_of_le i { acc with desired := acc.desired - 1 } le_rfl] at hs
        obtain ⟨s', hs', hlike⟩ := halike.exists_getElem? hs
        have hagain : verdict max maxIdle now q i = .counts :=
          verdict_of_idle hs' (hlike.changeable.trans hc)
            ((hlike.idleLongerThan_eq maxIdle now).trans hidle)
        simp only [hagain]
        exact ih _ halike
      case drains moves =>
        obtain ⟨s, hs, -, hidle, -, -⟩ := verdict_eq_drains hverdict
        obtain ⟨drain, hdrained⟩ := drain_of_verdict hverdict
        obtain ⟨t, ht, -⟩ := drain.source hs
        have htidle := (idleLongerThan_of_drain drain hs ht maxIdle now).trans hidle
        have htowns := hdrained.ownsNothing ht
        rw [← walk_getElem?_of_le i { acc with pool := (applyMoves i moves acc.pool).1, transfers := _ }
          le_rfl] at ht
        obtain ⟨t', ht', hlike⟩ := halike.exists_getElem? ht
        have hagain : verdict max maxIdle now q i = .drains [] :=
          verdict_of_ownsNothing ht'
            ⟨hlike.changeable.trans htowns.1, hlike.scraping.symm ▸ htowns.2⟩
            ((hlike.idleLongerThan_eq maxIdle now).trans htidle)
        simp only [hagain, applyMoves, Nat.add_zero]
        exact ih _ halike

end Scaling

/-! ## The size of the pool -/

theorem Scaling.grow_eq_ediv {changeable total : Nat} {needSpace max maxShards : Int}
    (hmax : 0 < max) (hneed : 0 < needSpace) (hsum : Word.Fits (needSpace + max - 1))
    (hcount : Word.Fits (changeable + (needSpace + max - 1) / max)) :
    grow changeable total needSpace max maxShards =
      min (Max.max (changeable + (needSpace + max - 1) / max) (total : Int)) maxShards := by
  have hextra : Word.sub (Word.add (Max.max needSpace 0) max) 1 = needSpace + max - 1 := by
    rw [max_eq_left hneed.le, Word.sub, Word.add, Word.wrap_wrap_sub, Word.wrap_eq_self hsum]
  rw [grow, hextra, Int.tdiv_eq_ediv_of_nonneg (by omega)]
  simp only [Word.add_eq hcount]

theorem Scaling.add_one_le_grow {changeable total : Nat} {needSpace max maxShards : Int}
    (hmax : 0 < max) (hneed : 0 < needSpace)
    (hle : changeable + needSpace + max ≤ Word.maxSigned) :
    min ((changeable : Int) + 1) maxShards ≤ grow changeable total needSpace max maxShards := by
  have hextra : 1 ≤ (needSpace + max - 1) / max := by
    rw [Int.le_ediv_iff_mul_le hmax]
    omega
  have hbound : (needSpace + max - 1) / max ≤ needSpace + max - 1 :=
    Int.ediv_le_self max (by omega)
  have hmin : Word.minSigned ≤ 0 := by decide
  rw [grow_eq_ediv hmax hneed ⟨by omega, by omega⟩ ⟨by omega, by omega⟩]
  omega

theorem Scaling.min_le_grow (changeable total : Nat) (needSpace max maxShards : Int) :
    min (total : Int) maxShards ≤ grow changeable total needSpace max maxShards :=
  min_le_min_right maxShards (le_max_right _ _)

namespace Planner

variable {pool q : Pool}

theorem resize_of_ne_zero {p : Policy} {needSpace : Int} (hneed : needSpace ≠ 0) (now : Nat)
    (pool : Pool) : (resize p now needSpace pool).1 = pool := by
  unfold resize
  rw [if_neg (by simp [hneed])]
  split <;> rfl

/-- On what a resize leaves, another one for the same need moves nothing and asks for the same
number of shards. -/
theorem resize_again (p : Policy) (now : Nat) (needSpace : Int)
    (halike : (resize p now needSpace pool).1.Alike q) :
    resize p now needSpace q = (q, (resize p now needSpace pool).2.1, 0) := by
  have hlength : q.length = pool.length :=
    halike.length_eq.symm.trans (resize_length p now needSpace pool)
  unfold resize at halike ⊢
  split
  · rename_i hshrink
    rw [if_pos hshrink] at halike
    simp only [Scaling.shrink, hlength]
    rw [Scaling.walk_again pool.length ⟨pool, pool.length, 0⟩ 0 halike]
  · rename_i hshrink
    rw [if_neg hshrink] at halike
    split
    · rename_i hgrow
      rw [if_pos hgrow] at halike
      rw [hlength, halike.changeableCount_eq]
    · rw [hlength]

end Planner

end ScrapeFleet
