import ScrapeFleet.Plan.Placement
import ScrapeFleet.Proofs.Plan.Step

/-!
# Placement fills free room

Whichever way a shard is chosen, it is one that accepts the target, and only
targets that no shard holds are placed.
-/

namespace ScrapeFleet.Placement

open Planning

variable {σ : Type} {max : Int} {pool : Pool}

theorem accepts_of_pick {p : Placement} {series : Int} {d d' : Draws} {j : Nat}
    (hpick : p.pick pool series max d = (some j, d')) :
    ∃ t, pool[j]? = some t ∧ t.accepts series max = true := by
  cases p with
  | firstFit =>
      simp only [pick, Prod.mk.injEq] at hpick
      obtain ⟨hlt, haccepts, -⟩ := List.findIdx?_eq_some_iff_getElem.1 hpick.1
      exact ⟨pool[j], List.getElem?_eq_getElem hlt, haccepts⟩
  | weighted =>
      simp only [pick, Prod.mk.injEq] at hpick
      obtain ⟨k, -, hk⟩ := Option.bind_eq_some_iff.1 hpick.1
      have hmem := List.mem_of_getElem? hk
      obtain ⟨⟨t, i⟩, hti, rfl⟩ := List.mem_map.1 hmem
      obtain ⟨hzip, haccepts⟩ := List.mem_filter.1 hti
      exact ⟨t, List.mem_zipIdx_iff_getElem?.1 hzip, haccepts⟩

theorem place_cases (p : Placement) (max : Int) (h : Fingerprint) (estimate : Option Status)
    (acc : Outcome σ) :
    (place p max h estimate acc).pool = acc.pool ∨
      ∃ j t series, acc.pool[j]? = some t ∧ t.accepts series max = true ∧
        (place p max h estimate acc).pool = acc.pool.modify j (·.receive h series) := by
  unfold place
  split
  · exact .inl rfl
  · rename_i st
    split
    · exact .inl rfl
    · split
      · exact .inl rfl
      · rename_i j draws hpick
        obtain ⟨t, ht, haccepts⟩ := accepts_of_pick hpick
        exact .inr ⟨j, t, st.series, ht, haccepts, rfl⟩

theorem placeTarget_of_not_held {p : Placement} {lookup : Lookup σ} {known : StatusMap}
    {acc : Outcome σ} {item : String × Target} (hholds : acc.pool.holds item.2.hash = false) :
    placeTarget p lookup known max acc item =
      place p max item.2.hash (estimate lookup known item.1 item.2 acc.explored).1
        { acc with explored := (estimate lookup known item.1 item.2 acc.explored).2 } := by
  rw [placeTarget, if_neg (by simp [hholds])]

/-- The pool stays, or a shard that accepts a target that nobody holds receives it. -/
theorem placeTarget_cases (p : Placement) (lookup : Lookup σ) (known : StatusMap) (max : Int)
    (acc : Outcome σ) (item : String × Target) :
    (placeTarget p lookup known max acc item).pool = acc.pool ∨
      acc.pool.holds item.2.hash = false ∧ ∃ j t series, acc.pool[j]? = some t ∧
        t.accepts series max = true ∧ (placeTarget p lookup known max acc item).pool =
          acc.pool.modify j (·.receive item.2.hash series) := by
  cases hholds : acc.pool.holds item.2.hash with
  | true => exact .inl (by rw [placeTarget, if_pos hholds])
  | false =>
      rw [placeTarget_of_not_held hholds]
      exact (place_cases p max item.2.hash _ _).imp_right fun hplaced => ⟨rfl, hplaced⟩

theorem placeTarget_steps (p : Placement) (lookup : Lookup σ) (known : StatusMap)
    {active : List Fingerprint} (acc : Outcome σ) {item : String × Target}
    (hactive : item.2.hash ∈ active) :
    Steps max active acc.pool (placeTarget p lookup known max acc item).pool := by
  obtain heq | ⟨hholds, j, t, series, ht, haccepts, heq⟩ :=
    placeTarget_cases p lookup known max acc item
  · rw [heq]
  · rw [heq]
    exact .single (.place hactive hholds ht haccepts)

theorem run_steps (p : Placement) (lookup : Lookup σ) (known : StatusMap) (max : Int)
    (active : TargetsByJob) (pool : Pool) (draws : Draws) (explored : σ) :
    Steps max active.hashes pool
      (p.run lookup known max active pool draws explored).pool := by
  refine Steps.foldl (placeTarget p lookup known max) (·.pool) (fun acc item hitem => ?_)
    ⟨pool, 0, 0, draws, explored⟩
  exact placeTarget_steps p lookup known acc (List.mem_map_of_mem hitem)

end ScrapeFleet.Placement
