import ScrapeFleet.Plan.Assignment
import ScrapeFleet.Replica.InMemory
import ScrapeFleet.Replica.Keys

/-!
# Targets with their states

Reports, assignments and what a group remembers of them all say the same kind of
thing: which targets there are and in which state each of them is.  Keys are
compared through the pairs that they are made of, the assignment of a shard lists
the targets and states that were planned for it, and a replica that takes an
assignment has just these afterwards.
-/

namespace ScrapeFleet

def StatusMap.states (m : StatusMap) : SortedMap Fingerprint TargetState := m.map (·.state)

theorem StatusMap.get?_states (m : StatusMap) (h : Fingerprint) :
    m.states.get? h = (m.get? h).map (·.state) := SortedMap.get?_map _ m h

/-! ## Keys -/

namespace AssignmentKeys

theorem has_ofPairs {pairs : List (Fingerprint × TargetState)} {h : Fingerprint}
    {state : TargetState} : (ofPairs pairs).has h state = true ↔ (h, state) ∈ pairs := by
  cases state <;> simp [ofPairs, has, SortedSet.contains_ofList]

theorem ext {a b : AssignmentKeys} (h : ∀ k state, a.has k state = b.has k state) : a = b := by
  obtain ⟨normal, inTransfer⟩ := a
  obtain ⟨normal', inTransfer'⟩ := b
  rw [mk.injEq]
  exact ⟨SortedSet.ext fun k => h k .normal, SortedSet.ext fun k => h k .inTransfer⟩

theorem has_ofStatuses {m : StatusMap} {h : Fingerprint} {state : TargetState} :
    (ofStatuses m).has h state = true ↔ m.states.get? h = some state := by
  rw [ofStatuses, has_ofPairs, StatusMap.get?_states, Option.map_eq_some_iff]
  simp only [List.mem_map, Prod.exists, Prod.mk.injEq, SortedMap.get?_eq_some_iff]
  constructor
  · rintro ⟨k, st, hmem, rfl, rfl⟩
    exact ⟨st, hmem, rfl⟩
  · rintro ⟨st, hmem, rfl⟩
    exact ⟨h, st, hmem, rfl, rfl⟩

theorem ofStatuses_eq_iff {a b : StatusMap} : ofStatuses a = ofStatuses b ↔ a.states = b.states := by
  constructor
  · intro heq
    refine SortedMap.ext fun h => Option.ext fun state => ?_
    rw [← has_ofStatuses, ← has_ofStatuses, heq]
  · intro heq
    refine ext fun h state => Bool.eq_iff_iff.2 ?_
    rw [has_ofStatuses, has_ofStatuses, heq]

end AssignmentKeys

/-! ## Assignments -/

def TargetsByJob.Gives (ts : TargetsByJob) (h : Fingerprint) (state : TargetState) : Prop :=
  ∃ t ∈ ts.values.flatten, t.hash = h ∧ t.state = state

/-- The assignment has exactly the targets of `states`, each in its state. -/
def TargetsByJob.Lists (ts : TargetsByJob) (states : SortedMap Fingerprint TargetState) : Prop :=
  ∀ h state, (∃ t ∈ ts.values.flatten, t.hash = h ∧ t.state = state) ↔ states.get? h = some state

theorem TargetsByJob.Lists.unique {ts : TargetsByJob}
    {states states' : SortedMap Fingerprint TargetState} (h : ts.Lists states)
    (h' : ts.Lists states') : states = states' :=
  SortedMap.ext fun k => Option.ext fun state => (h k state).symm.trans (h' k state)

theorem TargetsByJob.mem_add {ts : TargetsByJob} {job : String} {t x : Target} :
    x ∈ (ts.add job t).values.flatten ↔ x = t ∨ x ∈ ts.values.flatten := by
  simp only [SortedMap.mem_flatten_values, add, SortedMap.alter, SortedMap.get?_insert]
  constructor
  · rintro ⟨k, l, hl, hx⟩
    split at hl
    · obtain rfl := Option.some.inj hl
      rcases List.mem_append.1 hx with hx | hx
      · cases hold : ts.get? job with
        | none => simp [hold] at hx
        | some old => exact .inr ⟨job, old, hold, by simpa [hold] using hx⟩
      · exact .inl (List.mem_singleton.1 hx)
    · exact .inr ⟨k, l, hl, hx⟩
  · rintro (rfl | ⟨k, l, hl, hx⟩)
    · exact ⟨job, _, if_pos rfl, by simp⟩
    · by_cases hk : k = job
      · subst hk
        exact ⟨k, _, if_pos rfl, by simp [hl, hx]⟩
      · exact ⟨k, l, by rw [if_neg hk, hl], hx⟩

namespace Assignment

private theorem foldl_iff {α β : Type} {f : β → α → β} {P : β → Prop} {Q : α → Prop}
    (hf : ∀ b a, P (f b a) ↔ Q a ∨ P b) (l : List α) (b : β) :
    P (l.foldl f b) ↔ (∃ a ∈ l, Q a) ∨ P b := by
  induction l generalizing b with
  | nil => simp
  | cons a l ih =>
      rw [List.foldl_cons, ih, hf, or_left_comm, ← or_assoc]
      simp

theorem mem_ofScraping {byHash : SortedMap Fingerprint Target} {scraping : StatusMap} {x : Target} :
    x ∈ (ofScraping byHash scraping).values.flatten ↔
      ∃ h st t, scraping.get? h = some st ∧ byHash.get? h = some t ∧
        x = { t with state := st.state, series := st.series } := by
  unfold ofScraping
  refine (foldl_iff (P := fun out : TargetsByJob => x ∈ out.values.flatten) (Q := fun e =>
    ∃ t, byHash.get? e.1 = some t ∧ x = { t with state := e.2.state, series := e.2.series })
    ?_ scraping.entries ∅).trans ?_
  · rintro out ⟨h, st⟩
    cases ht : byHash.get? h with
    | none => simp [ht]
    | some t =>
        simp only [ht, TargetsByJob.mem_add]
        simp
  · simp only [SortedMap.get?_eq_some_iff, Prod.exists]
    constructor
    · rintro (⟨h, st, hmem, t, hrest⟩ | ⟨⟨⟩⟩)
      exact ⟨h, st, t, hmem, hrest⟩
    · rintro ⟨h, st, t, hmem, hrest⟩
      exact .inl ⟨h, st, hmem, t, hrest⟩

theorem hash_of_index {active : TargetsByJob} {h : Fingerprint} {t : Target}
    (ht : (index active).get? h = some t) : t.hash = h := by
  obtain ⟨⟨job, t'⟩, -, heq⟩ := List.mem_map.1 (SortedMap.mem_of_get?_ofList ht)
  obtain ⟨rfl, rfl⟩ := Prod.mk.inj heq
  rfl

theorem exists_index {active : TargetsByJob} {h : Fingerprint} (hactive : h ∈ active.hashes) :
    ∃ t, (index active).get? h = some t := by
  obtain ⟨⟨job, t⟩, hmem, rfl⟩ := List.mem_map.1 hactive
  exact Option.isSome_iff_exists.1
    (SortedMap.isSome_get?_ofList (List.mem_map.2 ⟨(job, t), hmem, rfl⟩))

theorem lists_ofScraping {active : TargetsByJob} {scraping : StatusMap}
    (hactive : ∀ h st, scraping.get? h = some st → h ∈ active.hashes) :
    (ofScraping (index active) scraping).Lists scraping.states := by
  intro h state
  rw [StatusMap.get?_states, Option.map_eq_some_iff]
  constructor
  · rintro ⟨x, hx, rfl, rfl⟩
    obtain ⟨k, st, t, hst, ht, rfl⟩ := mem_ofScraping.1 hx
    have hhash : t.hash = k := hash_of_index ht
    exact ⟨st, by rw [← hst, ← hhash], rfl⟩
  · rintro ⟨st, hst, rfl⟩
    obtain ⟨t, ht⟩ := exists_index (hactive h st hst)
    have hhash : t.hash = h := hash_of_index ht
    exact ⟨_, mem_ofScraping.2 ⟨h, st, t, hst, ht, rfl⟩, hhash, rfl⟩

end Assignment

namespace AssignmentKeys

theorem has_ofTargets {ts : TargetsByJob} {h : Fingerprint} {state : TargetState} :
    (ofTargets ts).has h state = true ↔ ts.Gives h state := by
  rw [ofTargets, has_ofPairs, TargetsByJob.Gives]
  simp only [List.mem_map, Prod.mk.injEq]

/-- An assignment has the keys of a report exactly if it lists the targets and states of the
report. -/
theorem ofTargets_eq_ofStatuses_iff {ts : TargetsByJob} {m : StatusMap} :
    ofTargets ts = ofStatuses m ↔ ts.Lists m.states := by
  constructor
  · intro heq h state
    rw [← has_ofStatuses, ← heq, has_ofTargets, TargetsByJob.Gives]
  · intro hlists
    refine ext fun h state => Bool.eq_iff_iff.2 ?_
    rw [has_ofTargets, has_ofStatuses, ← hlists, TargetsByJob.Gives]

end AssignmentKeys

/-! ## Replicas in memory -/

namespace InMemory

theorem mem_of_get?_adopt {l : List Target} {acc : StatusMap × StatusMap} {h : Fingerprint}
    {st : Status} (hst : (l.foldl adopt acc).2.get? h = some st) :
    (∃ t ∈ l, t.hash = h ∧ t.state = st.state) ∨ acc.2.get? h = some st := by
  induction l generalizing acc with
  | nil => exact .inr hst
  | cons t l ih =>
      rcases ih hst with ⟨t', hmem, hrest⟩ | hget
      · exact .inl ⟨t', List.mem_cons_of_mem _ hmem, hrest⟩
      · rw [adopt, SortedMap.get?_insert] at hget
        split at hget
        · rename_i hk
          obtain rfl := Option.some.inj hget
          exact .inl ⟨t, List.mem_cons_self, hk.symm, rfl⟩
        · exact .inr hget

theorem isSome_get?_adopt {l : List Target} (acc : StatusMap × StatusMap) {h : Fingerprint}
    (hex : (∃ t ∈ l, t.hash = h) ∨ (acc.2.get? h).isSome) :
    ((l.foldl adopt acc).2.get? h).isSome := by
  induction l generalizing acc with
  | nil =>
      rcases hex with ⟨t, hmem, -⟩ | hsome
      · cases hmem
      · exact hsome
  | cons t l ih =>
      refine ih _ ?_
      rw [adopt, SortedMap.get?_insert]
      rcases hex with ⟨t', hmem, rfl⟩ | hsome
      · rcases List.mem_cons.1 hmem with rfl | hmem
        · exact .inr (by simp)
        · exact .inl ⟨t', hmem, rfl⟩
      · exact .inr (by split <;> simp [hsome])

theorem states_assign {r : InMemory} {ts : TargetsByJob}
    {states : SortedMap Fingerprint TargetState} (hlists : ts.Lists states) :
    (r.assign ts).scraping.states = states := by
  have hfrom : ∀ h state, (r.assign ts).scraping.states.get? h = some state →
      states.get? h = some state := by
    intro h state hstate
    rw [StatusMap.get?_states, Option.map_eq_some_iff] at hstate
    obtain ⟨st, hst, rfl⟩ := hstate
    rcases mem_of_get?_adopt hst with hmem | hget
    · exact (hlists h st.state).1 hmem
    · cases hget
  refine SortedMap.ext fun h => Option.ext fun state => ⟨hfrom h state, fun hstate => ?_⟩
  obtain ⟨t, hmem, hhash, -⟩ := (hlists h state).2 hstate
  obtain ⟨st, hst⟩ := Option.isSome_iff_exists.1
    (isSome_get?_adopt (r.scraping, ∅) (.inl ⟨t, hmem, hhash⟩))
  have hget : (r.assign ts).scraping.states.get? h = some st.state := by
    rw [StatusMap.get?_states]
    exact Option.map_eq_some_iff.2 ⟨st, hst, rfl⟩
  rw [hget, ← hstate, hfrom h st.state hget]

end InMemory

end ScrapeFleet
