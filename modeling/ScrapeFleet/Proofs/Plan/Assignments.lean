import ScrapeFleet.Proofs.Plan.Cycle
import ScrapeFleet.Proofs.Replica.States

/-!
# What a cycle assigns

An assignment is built by going over the entries of a shard and adding an active
target for each of them to the list of its own job.  Adding a target adds one
occurrence and leaves the others where they are, so the assignment lists the
entries of the shard, each once, whatever the jobs are and however often the
targets are discovered.
-/

namespace ScrapeFleet

/-! ## Adding to a list of a job -/

namespace SortedMap

variable {κ α : Type} [Ord κ] [DecidableEq κ] [Std.TransOrd κ] [Std.LawfulEqOrd κ]

theorem find_eq_none_of_lt {k k' : κ} {v' : α} {rest : List (κ × α)}
    (hsorted : ((k', v') :: rest).Pairwise fun a b => compare a.1 b.1 = .lt)
    (hlt : compare k k' = .lt) : find k ((k', v') :: rest) = none := by
  cases hfind : find k ((k', v') :: rest) with
  | none => rfl
  | some v =>
      have hmem := (find_eq_some_iff hsorted).1 hfind
      rw [List.pairwise_cons] at hsorted
      have hself : compare k k = .lt := by
        rcases List.mem_cons.1 hmem with heq | hmem
        · obtain ⟨rfl, -⟩ := Prod.mk.inj heq
          exact hlt
        · exact Std.TransCmp.lt_trans hlt (hsorted.1 (k, v) hmem)
      rw [Std.compare_self] at hself
      cases hself

theorem exists_insertEntry (k : κ) (v : α) {l : List (κ × α)}
    (hsorted : l.Pairwise fun a b => compare a.1 b.1 = .lt) :
    ∃ before after, l = before ++ ((find k l).map (k, ·)).toList ++ after ∧
      insertEntry k v l = before ++ (k, v) :: after := by
  induction l with
  | nil => exact ⟨[], [], rfl, rfl⟩
  | cons e rest ih =>
      obtain ⟨k', v'⟩ := e
      cases hcompare : compare k k' with
      | lt =>
          refine ⟨[], (k', v') :: rest, ?_, by simp [insertEntry, hcompare]⟩
          simp [find_eq_none_of_lt hsorted hcompare]
      | eq =>
          obtain rfl := Std.LawfulEqOrd.eq_of_compare hcompare
          exact ⟨[], rest, by simp [find], by simp [insertEntry]⟩
      | gt =>
          have hne : k ≠ k' := by
            rintro rfl
            rw [Std.compare_self] at hcompare
            cases hcompare
          obtain ⟨before, after, hl, hinsert⟩ := ih (List.pairwise_cons.1 hsorted).2
          refine ⟨(k', v') :: before, after, ?_, by simp [insertEntry, hcompare, hinsert]⟩
          rw [find, if_neg hne]
          simpa using hl

end SortedMap

namespace TargetsByJob

theorem listed_add (ts : TargetsByJob) (job : String) (t : Target) :
    (ts.add job t).listed.Perm ((job, t) :: ts.listed) := by
  obtain ⟨before, after, hts, hadd⟩ := SortedMap.exists_insertEntry job
    ((ts.get? job).getD [] ++ [t]) ts.sorted
  let pairs : String × List Target → List (String × Target) := fun e => e.2.map (e.1, ·)
  have hold : ((ts.get? job).map (job, ·)).toList.flatMap pairs =
      ((ts.get? job).getD []).map (job, ·) := by
    cases ts.get? job <;> simp [pairs]
  have hbefore : ts.listed =
      before.flatMap pairs ++ ((ts.get? job).getD []).map (job, ·) ++ after.flatMap pairs := by
    rw [← hold, ← List.flatMap_append, ← List.flatMap_append]
    exact congrArg (List.flatMap pairs) hts
  have hafter : (ts.add job t).listed =
      before.flatMap pairs ++ ((ts.get? job).getD []).map (job, ·) ++
        (job, t) :: after.flatMap pairs := by
    refine (congrArg (List.flatMap pairs) hadd).trans ?_
    simp [pairs]
  rw [hbefore, hafter]
  exact List.perm_middle

theorem listed_foldl {α : Type} {add : TargetsByJob → α → TargetsByJob}
    {added? : α → Option (String × Target)}
    (hadd : ∀ ts a, (add ts a).listed.Perm ((added? a).toList ++ ts.listed)) (l : List α)
    (ts : TargetsByJob) : (l.foldl add ts).listed.Perm (ts.listed ++ l.filterMap added?) := by
  induction l generalizing ts with
  | nil => simp
  | cons a l ih =>
      rw [List.foldl_cons, List.filterMap_cons]
      apply (ih (add ts a)).trans
      apply ((hadd ts a).append_right _).trans
      cases added? a with
      | none => exact List.Perm.refl _
      | some item => exact List.perm_middle.symm

end TargetsByJob

/-! ## The assignment of a shard -/

namespace Assignment

variable {active : TargetsByJob} {byHash : SortedMap Fingerprint Target} {scraping : StatusMap}

/-- What is assigned for an entry of a shard, with the job that it is listed under. -/
def assigned? (byHash : SortedMap Fingerprint Target) (e : Fingerprint × Status) :
    Option (String × Target) :=
  (byHash.get? e.1).map fun t => (t.job, { t with state := e.2.state, series := e.2.series })

theorem listed_ofScraping (byHash : SortedMap Fingerprint Target) (scraping : StatusMap) :
    (ofScraping byHash scraping).listed.Perm (scraping.entries.filterMap (assigned? byHash)) := by
  apply TargetsByJob.listed_foldl
  intro ts e
  cases ht : byHash.get? e.1 with
  | none => simp [assigned?, ht]
  | some t =>
      simp only [assigned?, ht, Option.map_some, Option.toList_some, List.singleton_append]
      apply TargetsByJob.listed_add

theorem mem_listed_of_index {h : Fingerprint} {t : Target}
    (ht : (index active).get? h = some t) : ∃ key, (key, t) ∈ active.listed := by
  obtain ⟨⟨key, t'⟩, hmem, heq⟩ := List.mem_map.1 (SortedMap.mem_of_get?_ofList ht)
  obtain ⟨-, rfl⟩ := Prod.mk.inj heq
  exact ⟨key, hmem⟩

theorem hash_of_assigned? {e : Fingerprint × Status} {item : String × Target}
    (hitem : assigned? (index active) e = some item) : item.2.hash = e.1 := by
  obtain ⟨t, ht, rfl⟩ := Option.map_eq_some_iff.1 hitem
  have hhash : t.hash = e.1 := hash_of_index ht
  exact hhash

theorem hashes_ofScraping (hactive : ∀ h st, scraping.get? h = some st → h ∈ active.hashes) :
    (ofScraping (index active) scraping).hashes.Perm scraping.keys := by
  apply ((listed_ofScraping (index active) scraping).map _).trans
  have hall : ∀ e ∈ scraping.entries,
      (assigned? (index active) e).map (·.2.hash) = some e.1 := by
    intro e he
    obtain ⟨t, ht⟩ := exists_index (hactive e.1 e.2 (SortedMap.get?_eq_some_iff.2 he))
    rw [assigned?, ht, Option.map_some, Option.map_some, ← hash_of_index ht]
  rw [List.map_filterMap, List.filterMap_congr hall, List.filterMap_eq_map']
  exact List.Perm.refl _

theorem mem_listed_ofScraping {job : String} {x : Target}
    (hx : (job, x) ∈ (ofScraping (index active) scraping).listed) :
    x.job = job ∧ ∃ key t st, (key, t) ∈ active.listed ∧ scraping.get? x.hash = some st ∧
      x = { t with state := st.state, series := st.series } := by
  rw [(listed_ofScraping _ _).mem_iff, List.mem_filterMap] at hx
  obtain ⟨⟨h, st⟩, hmem, hentry⟩ := hx
  have hget : scraping.get? x.hash = some st := by
    rw [hash_of_assigned? hentry]
    exact SortedMap.get?_eq_some_iff.2 hmem
  obtain ⟨t, ht, heq⟩ := Option.map_eq_some_iff.1 hentry
  obtain ⟨rfl, rfl⟩ := Prod.mk.inj heq
  obtain ⟨key, hkey⟩ := mem_listed_of_index ht
  exact ⟨rfl, key, t, st, hkey, hget, rfl⟩

end Assignment

/-! ## The assignments of a cycle -/

namespace Planner

variable {σ : Type} (lookup : Lookup σ) (now : Nat) (active : TargetsByJob) (planner : Planner)
  (pool : Pool) (explored : σ)

/-- A shard that may be changed is assigned each target of its entries once and no other one,
under the target's own job, as an active target with the state and series of the entry.  So the
assignment has the keys of the entries. -/
theorem plan_lists_scraping :
    ∀ s ∈ (planner.plan lookup now active pool explored).pool, s.changeable = true →
      s.assignment.hashes.Perm s.scraping.keys ∧
        (∀ job x, (job, x) ∈ s.assignment.listed → x.job = job ∧
          ∃ key t st, (key, t) ∈ active.listed ∧ s.scraping.get? x.hash = some st ∧
            x = { t with state := st.state, series := st.series }) ∧
        AssignmentKeys.ofTargets s.assignment = AssignmentKeys.ofStatuses s.scraping := by
  intro s hs hc
  obtain ⟨i, hi⟩ := List.mem_iff_getElem?.1 hs
  obtain ⟨hassignment, hactive⟩ := assignment_of_plan lookup now active planner pool explored hi hc
  rw [hassignment]
  refine ⟨Assignment.hashes_ofScraping hactive, fun job x => Assignment.mem_listed_ofScraping, ?_⟩
  exact AssignmentKeys.ofTargets_eq_ofStatuses_iff.2 (Assignment.lists_ofScraping hactive)

def outdated : Pool :=
  [{ id := "s0", changeable := true, runtime := { headSeries := 40 },
     scraping := .ofList [(1, { health := .good, series := 7, state := .inTransfer }),
       (2, { health := .good, series := 20, scrapes := 5 }),
       (3, { health := .good, series := 10, scrapes := 5 })] }]

theorem plan_lists_scraping_of_outdated :
    let target (job : String) (h : Fingerprint) : Target := { hash := h, job, url := "" }
    let active : TargetsByJob :=
      .ofList [("a", [target "a" 1, target "a" 1, target "z" 2]), ("b", [target "b" 1])]
    let planner : Planner :=
      { policy := ⟨100, 16, .ofSecs 0, .ofSecs 15⟩, draws := { ahead := [] } }
    let lookup : Lookup Unit := ⟨fun _ _ e => (none, e), fun _ _ _ => none⟩
    ∃ s ∈ (planner.plan lookup 0 active outdated ()).pool, s.changeable = true ∧
      s.assignment = .ofList [("b", [{ target "b" 1 with state := .inTransfer, series := 7 }]),
        ("z", [{ target "z" 2 with series := 20 }])] ∧
      s.assignment.hashes.Perm s.scraping.keys ∧
      AssignmentKeys.ofTargets s.assignment = AssignmentKeys.ofStatuses s.scraping := by
  intro target active planner lookup
  have hfirst : (planner.plan lookup 0 active outdated ()).pool[0]?.any (fun s => s.changeable &&
      s.assignment = .ofList [("b", [{ target "b" 1 with state := .inTransfer, series := 7 }]),
        ("z", [{ target "z" 2 with series := 20 }])]) = true := by
    decide +kernel
  obtain ⟨s, hs, hfirst⟩ := Option.any_eq_true .. |>.1 hfirst
  simp only [Bool.and_eq_true, decide_eq_true_eq] at hfirst
  have hmem := List.mem_of_getElem? hs
  obtain ⟨hhashes, -, hkeys⟩ :=
    plan_lists_scraping lookup 0 active planner outdated () s hmem hfirst.1
  exact ⟨s, hmem, hfirst.1, hfirst.2, hhashes, hkeys⟩

end Planner

end ScrapeFleet
