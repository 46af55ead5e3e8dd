import ScrapeFleet.Discovery
import ScrapeFleet.Explore.Explorer

/-!
# What an update of the targets keeps

An update takes the entries of the active targets out of the old map.  Where a job lists
a target once, the entry stays as it is.  Where it lists the target again, the entry has
been taken out by then, so that the later listing replaces it by one that begins anew.
-/

namespace ScrapeFleet

def TargetsByJob.listings (active : TargetsByJob) (k : Token) : List Target :=
  ((active.get? k.1).getD []).filter (·.hash = k.2)

namespace Explorer

variable {e : Explorer} {active : TargetsByJob} {k : Token}

/-- What is under a fingerprint in the new map after its listings, if it is `old` in the old map
and `new` in the new one before. -/
def relisted (old new : Option ExploredTarget) : List Target → Option ExploredTarget
  | [] => new
  | t :: rest => relisted none (some (old.getD { target := t })) rest

theorem relisted_none (new : Option ExploredTarget) (t : Target) (rest : List Target) :
    ∃ last, relisted none new (t :: rest) = some { target := last } := by
  induction rest generalizing new t with
  | nil => exact ⟨t, rfl⟩
  | cons t' rest ih => exact ih (some { target := t }) t'

theorem relisted_again (old new : Option ExploredTarget) (t t' : Target) (rest : List Target) :
    ∃ last, relisted old new (t :: t' :: rest) = some { target := last } :=
  relisted_none (some (old.getD { target := t })) t' rest

theorem get?_foldl_keepTarget (h : Fingerprint) (ts : List Target)
    (acc : SortedMap Fingerprint ExploredTarget × SortedMap Fingerprint ExploredTarget) :
    (ts.foldl keepTarget acc).2.get? h =
      relisted (acc.1.get? h) (acc.2.get? h) (ts.filter (·.hash = h)) := by
  induction ts generalizing acc with
  | nil => rfl
  | cons t ts ih =>
      rw [List.foldl_cons, ih, keepTarget, SortedMap.get?_erase, SortedMap.get?_insert]
      by_cases ht : t.hash = h
      · rw [List.filter_cons_of_pos (by simpa using ht), if_pos ht.symm, if_pos ht.symm, ht]
        rfl
      · rw [List.filter_cons_of_neg (by simpa using ht), if_neg (Ne.symm ht), if_neg (Ne.symm ht)]

/-- After an update the entry of a target is what its listings make of the one before. -/
theorem entry?_updateTargets (e : Explorer) (active : TargetsByJob) (k : Token) :
    entry? (e.updateTargets active) k = relisted (e.entry? k) none (active.listings k) := by
  have hold : ((e.jobs.get? k.1).getD ∅).get? k.2 = e.entry? k := by
    unfold entry?
    cases e.jobs.get? k.1 <;> rfl
  rw [← hold, TargetsByJob.listings]
  unfold entry?
  rw [updateTargets, SortedMap.get?_mapEntries]
  cases hts : active.get? k.1 with
  | none => rfl
  | some ts =>
      rw [Option.map_some, Option.bind_some, get?_foldl_keepTarget]
      rfl

theorem entry?_updateTargets_of_once (honce : (active.listings k).length = 1)
    {x : ExploredTarget} (hx : e.entry? k = some x) :
    entry? (e.updateTargets active) k = some x := by
  obtain ⟨t, ht⟩ := List.length_eq_one_iff.1 honce
  rw [entry?_updateTargets, ht, hx]
  rfl

theorem entry?_updateTargets_cases {y : ExploredTarget}
    (hy : entry? (e.updateTargets active) k = some y) :
    ((active.listings k).length = 1 ∧ e.entry? k = some y) ∨ ∃ t, y = { target := t } := by
  rw [entry?_updateTargets] at hy
  rcases hlistings : active.listings k with _ | ⟨t, _ | ⟨t', rest⟩⟩
  · rw [hlistings] at hy
    cases hy
  · rw [hlistings] at hy
    cases hx : e.entry? k with
    | none => exact .inr ⟨t, by simpa [hx, relisted] using hy.symm⟩
    | some x => exact .inl ⟨rfl, by simpa [hx, relisted] using hy⟩
  · obtain ⟨last, hlast⟩ := relisted_again (e.entry? k) none t t' rest
    rw [hlistings, hlast] at hy
    exact .inr ⟨last, (Option.some.inj hy).symm⟩

theorem isSome_entry?_updateTargets :
    ( entry? (e.updateTargets active) k).isSome = true ↔ active.listings k ≠ [] := by
  rw [entry?_updateTargets]
  rcases active.listings k with _ | ⟨t, _ | ⟨t', rest⟩⟩
  · exact iff_of_false Bool.false_ne_true (fun hne => hne rfl)
  · exact iff_of_true rfl (List.cons_ne_nil _ _)
  · obtain ⟨last, hlast⟩ := relisted_again (e.entry? k) none t t' rest
    rw [hlast]
    exact iff_of_true rfl (List.cons_ne_nil _ _)

/-- After an update the known targets are those that are listed.  One that was known before keeps
its progress just if its job lists it once, or if there was no progress to lose. -/
theorem updateTargets_keeps_iff (e : Explorer) (active : TargetsByJob) :
    (∀ k, ( entry? (e.updateTargets active) k).isSome = true ↔
      ∃ ts, active.get? k.1 = some ts ∧ ∃ t ∈ ts, t.hash = k.2) ∧
    ∀ k x y, e.entry? k = some x → entry? (e.updateTargets active) k = some y →
      (y.status = x.status ∧ y.samples = x.samples ∧ y.queued = x.queued ↔
        (active.listings k).length = 1 ∨
          x.status = .fresh 0 ∧ x.samples = 0 ∧ x.queued = false) := by
  refine ⟨fun k => ?_, fun k x y hx hy => ?_⟩
  · rw [isSome_entry?_updateTargets, TargetsByJob.listings, Ne, List.filter_eq_nil_iff]
    cases active.get? k.1 <;> simp
  · constructor
    · rintro ⟨hstatus, hsamples, hqueued⟩
      rcases entry?_updateTargets_cases hy with ⟨honce, -⟩ | ⟨t, rfl⟩
      · exact .inl honce
      · exact .inr ⟨hstatus.symm, hsamples.symm, hqueued.symm⟩
    · rintro (honce | ⟨hstatus, hsamples, hqueued⟩)
      · obtain rfl := Option.some.inj ((entry?_updateTargets_of_once honce hx).symm.trans hy)
        exact ⟨rfl, rfl, rfl⟩
      · rcases entry?_updateTargets_cases hy with ⟨-, hsame⟩ | ⟨t, rfl⟩
        · obtain rfl := Option.some.inj (hx.symm.trans hsame)
          exact ⟨rfl, rfl, rfl⟩
        · exact ⟨hstatus.symm, hsamples.symm, hqueued.symm⟩

def repeatedTarget : Config :=
  let listed : Config.ListedTarget := { url := "http://a:80/metrics" }
  { jobs := [{ name := "node", targets := [listed, listed] }] }

def sampledOnce (t : Target) : Explorer :=
  ((ofQueueSize 16).get "node" t).2.dequeue.2.finish ("node", t.hash) 0 0 (.ok 5)

theorem updateTargets_keeps_of_once :
    let t : Target := { hash := 1, job := "node", url := "u" }
    let active : TargetsByJob := .ofList [("node", [t, { t with hash := 2 }])]
    ∃ x y, entry? (sampledOnce t) ("node", 1) = some x ∧
      entry? ((sampledOnce t).updateTargets active) ("node", 1) = some y ∧
      (active.listings ("node", 1)).length = 1 ∧
      y.status = x.status ∧ y.samples = x.samples ∧ y.queued = x.queued := by
  intro t active
  have hx : ( entry? (sampledOnce t) ("node", 1)).isSome = true := by decide +kernel
  have honce : (active.listings ("node", 1)).length = 1 := by decide +kernel
  obtain ⟨hknown, hkeeps⟩ := updateTargets_keeps_iff (sampledOnce t) active
  obtain ⟨x, hx⟩ := Option.isSome_iff_exists.1 hx
  obtain ⟨y, hy⟩ := Option.isSome_iff_exists.1
    ((hknown ("node", 1)).2 ⟨_, rfl, t, List.mem_cons_self, rfl⟩)
  exact ⟨x, y, hx, hy, honce, (hkeeps _ x y hx hy).2 (.inl honce)⟩

/-- A target that is listed twice loses all its progress in an update, although discovery takes
such a configuration. -/
theorem updateTargets_forgets_repeated :
    ∃ sets t x y, repeatedTarget.validate = .ok () ∧
      Discovery.ofConfig repeatedTarget = .ok sets ∧ sets.active.get? "node" = some [t, t] ∧
      entry? (sampledOnce t) ("node", t.hash) = some x ∧
      entry? ((sampledOnce t).updateTargets sets.active) ("node", t.hash) = some y ∧
      y.status ≠ x.status ∧ y.samples ≠ x.samples ∧ y.queued ≠ x.queued := by
  have hlost : ((Discovery.ofConfig repeatedTarget).toOption.any fun sets =>
      ((sets.active.get? "node").getD []).head?.any fun t =>
        sets.active.get? "node" = some [t, t] &&
          ( entry? (sampledOnce t) ("node", t.hash)).any fun x =>
            ( entry? ((sampledOnce t).updateTargets sets.active) ("node", t.hash)).any fun y =>
              y.status ≠ x.status ∧ y.samples ≠ x.samples ∧ y.queued ≠ x.queued) = true := by
    decide +kernel
  obtain ⟨sets, hsets, hlost⟩ := (Option.any_eq_true _ _).1 hlost
  obtain ⟨t, -, hlost⟩ := (Option.any_eq_true _ _).1 hlost
  obtain ⟨hactive, hlost⟩ := Bool.and_eq_true_iff.1 hlost
  obtain ⟨x, hx, hlost⟩ := (Option.any_eq_true _ _).1 hlost
  obtain ⟨y, hy, hlost⟩ := (Option.any_eq_true _ _).1 hlost
  have hvalid : repeatedTarget.validate = .ok () := by rfl
  have hdiscovered : Discovery.ofConfig repeatedTarget = .ok sets := by
    cases h : Discovery.ofConfig repeatedTarget <;> simp_all [Except.toOption]
  exact ⟨sets, t, x, y, hvalid, hdiscovered, of_decide_eq_true hactive, hx, hy,
    of_decide_eq_true hlost⟩

end Explorer

end ScrapeFleet
