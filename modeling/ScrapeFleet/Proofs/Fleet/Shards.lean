import ScrapeFleet.Coordinator
import ScrapeFleet.Proofs.Replica.Holdings

/-!
# Shards without failures

A shard whose replicas never fail is read as it is and takes any assignment.  In a
cycle it may be changed unless it has no replicas, and then it holds nothing.
-/

namespace ScrapeFleet

namespace Shard

variable {states states' : SortedMap Fingerprint TargetState} {s : Shard InMemory}

/-- All replicas have the same targets and states and never fail. -/
def Holds (states : SortedMap Fingerprint TargetState) (s : Shard InMemory) : Prop :=
  ∀ r ∈ s.group, r.Holds states

def owns (h : Fingerprint) (s : Shard InMemory) : Bool := s.group.any (·.endpoint.owns h)

theorem Holds.owns_eq (hs : s.Holds states) (hne : s.group ≠ []) (h : Fingerprint) :
    s.owns h = decide (states.get? h = some .normal) := by
  have hall : ∀ r ∈ s.group, r.endpoint.owns h = decide (states.get? h = some .normal) :=
    fun r hr => (hs r hr).owns h
  cases hstate : decide (states.get? h = some .normal) with
  | true =>
      obtain ⟨r, hr⟩ := List.exists_mem_of_ne_nil _ hne
      exact List.any_eq_true.2 ⟨r, hr, by rw [hall r hr, hstate]⟩
  | false =>
      refine List.any_eq_false.2 fun r hr => ?_
      rw [hall r hr, hstate]
      exact Bool.false_ne_true

theorem owns_of_nil (hs : s.group = []) (h : Fingerprint) : s.owns h = false := by
  rw [owns, hs, List.any_nil]

/-! ## Requests -/

theorem Holds.runtime {p : String → Prop} (hne : s.group ≠ [])
    (hs : ∀ r ∈ s.group, r.Holds states ∧ p r.endpoint.runtime.configHash) :
    ∃ load g, s.runtime = (.ok load, { s with group := g }) ∧ p load.configHash ∧ g ≠ [] ∧
      Holds states { s with group := g } := by
  obtain ⟨load, g, heq, hp, hne', hg⟩ :=
    ReplicaGroup.read_of_answers (Replica.answers_runtime p) (fun a b => b.headSeries < a.headSeries)
      hne hs
  refine ⟨load, g, ?_, hp, hne', hg⟩
  unfold Shard.runtime after
  simp only [heq]

theorem Holds.pushConfig (hs : s.Holds states) (hne : s.group ≠ []) (raw : ByteArray) :
    ∃ g, s.pushConfig raw = (.ok (), { s with group := g }) ∧ g ≠ [] ∧
      ∀ r ∈ g, r.Holds states ∧ r.endpoint.runtime.configHash = Sha256.hexDigest raw := by
  obtain ⟨g, heq, hne', hg⟩ :=
    ReplicaGroup.write_of_answers (Replica.answers_pushConfig raw) hne hs
  refine ⟨g, ?_, hne', hg⟩
  unfold Shard.pushConfig after
  simp only [heq]

theorem largest_states {reports : List StatusMap} (hne : reports ≠ [])
    (hall : ∀ m ∈ reports, m.states = states) : (largest reports).states = states := by
  have hfold : ∀ (l : List StatusMap) (best : StatusMap), best.states = states →
      (∀ m ∈ l, m.states = states) →
      (l.foldl (fun best m => if best.size < m.size then m else best) best).states = states := by
    intro l
    induction l with
    | nil => exact fun _ hbest _ => hbest
    | cons m l ih =>
        intro best hbest hl
        refine ih _ ?_ fun m' hm' => hl m' (List.mem_cons_of_mem m hm')
        dsimp only
        split
        · exact hl m List.mem_cons_self
        · exact hbest
  cases reports with
  | nil => exact absurd rfl hne
  | cons m l =>
      refine hfold l _ ?_ fun m' hm' => hall m' (List.mem_cons_of_mem m hm')
      dsimp only
      split
      · exact hall m List.mem_cons_self
      · -- The first report is not larger than an empty one.
        rename_i hsize
        have hempty : m = ∅ := SortedMap.eq_empty_of_size (Nat.eq_zero_of_not_pos hsize)
        rw [← hall m List.mem_cons_self, hempty]

theorem Holds.scrapeStatus (hs : s.Holds states) (hne : s.group ≠ []) :
    ∃ m g, s.scrapeStatus = (.ok m, { s with group := g, cached := some m }) ∧
      m.states = states ∧ g ≠ [] ∧ ∀ r ∈ g, r.Holds states := by
  obtain ⟨found, g, heq, hfound, hstates, hne', hg⟩ :=
    ReplicaGroup.broadcast_of_answers Replica.answers_scrapeStatus hne hs
  obtain ⟨hne'', hg'⟩ :=
    ReplicaGroup.forall_observe_all found (fun r m hr => hr.observe m) hne' hg
  refine ⟨largest (found.map (·.2)), _, ?_, largest_states (by simpa using hfound) ?_, hne'', hg'⟩
  · unfold Shard.scrapeStatus
    simp only [heq]
  · intro m hm
    obtain ⟨e, he, rfl⟩ := List.mem_map.1 hm
    exact hstates e he

theorem Holds.updateTargets (hs : s.Holds states) (hne : s.group ≠ []) {ts : TargetsByJob}
    (hlists : ts.Lists states') :
    ∃ g, s.updateTargets ts = (.ok (), { s with group := g }) ∧ g ≠ [] ∧
      ∀ r ∈ g, r.Holds states' := by
  obtain ⟨n, g, heq, hne', hg⟩ :=
    ReplicaGroup.pushTargets_of_push hne fun r hr => (hs r hr).push hlists
  refine ⟨g, ?_, hne', hg⟩
  unfold Shard.updateTargets after
  simp only [heq]
  rfl

/-! ## Shards as planning sees them -/

/-- Planning sees the shard as it is: what may be changed are the shards with replicas, and
these hold what is known of them. -/
structure Shows (s : Shard InMemory) (info : ShardState) : Prop where
  holds : s.Holds info.scraping.states
  changeable_iff : info.changeable = true ↔ s.group ≠ []

theorem Shows.owns_eq {info : ShardState} (hs : s.Shows info) (h : Fingerprint) :
    s.owns h = info.has Status.isNormal h := by
  by_cases hne : s.group = []
  · have hc : info.changeable = false :=
      Bool.eq_false_iff.2 fun hc => hs.changeable_iff.1 hc hne
    simp [owns_of_nil hne, ShardState.has, ShardState.copy?, hc]
  · rw [hs.holds.owns_eq hne, StatusMap.get?_states, ShardState.has,
      ShardState.copy?_eq_get? (hs.changeable_iff.2 hne)]
    cases info.scraping.get? h with
    | none => rfl
    | some st => simp [Status.isNormal]

end Shard

/-! ## Collecting -/

namespace Collection

variable {states : SortedMap Fingerprint TargetState} {s : Shard InMemory}
  {expected : Config.Loaded}

theorem collectShard_of_nil (expected : Config.Loaded) (hs : s.group = []) :
    (collectShard expected s).1.changeable = false ∧ (collectShard expected s).2.group = [] ∧
      (collectShard expected s).2.ready = s.ready := by
  have hfails : s.group.broadcast Endpoint.scrapeStatus = (.error .noReplicas, s.group) := by
    rw [hs]
    rfl
  unfold collectShard
  split
  · exact ⟨rfl, hs, rfl⟩
  · simp only [Shard.scrapeStatus, hfails]
    exact ⟨rfl, hs, trivial⟩

theorem configure_of_holds (hhash : expected.hash = Sha256.hexDigest expected.raw)
    (hs : s.Holds states) (hne : s.group ≠ []) (load : Runtime) (m : StatusMap) :
    ∃ load' g, configure expected load m s = (changeable s load' m, { s with group := g }) ∧
      g ≠ [] ∧ ∀ r ∈ g, r.Holds states := by
  obtain ⟨g, heq, hne', hg⟩ := hs.pushConfig hne expected.raw
  obtain ⟨load', g', heq', hload, hne'', hg'⟩ :=
    Shard.Holds.runtime (s := { s with group := g }) (p := (· = Sha256.hexDigest expected.raw)) hne' hg
  refine ⟨load', g', ?_, hne'', hg'⟩
  unfold configure
  simp only [heq, heq', hload, hhash, if_true]
  rfl

theorem collectShard_of_holds (hhash : expected.hash = Sha256.hexDigest expected.raw)
    (hready : s.ready = true) (hs : s.Holds states) (hne : s.group ≠ []) :
    ∃ info s', collectShard expected s = (info, s') ∧ info.changeable = true ∧
      info.scraping.states = states ∧ s'.ready = true ∧ s'.group ≠ [] ∧ s'.Holds states := by
  obtain ⟨m, g, heq, hm, hne', hg⟩ := hs.scrapeStatus hne
  obtain ⟨load, g', heq', -, hne'', hg'⟩ :=
    Shard.Holds.runtime (s := { s with group := g, cached := some m }) (p := fun _ => True) hne'
      fun r hr => ⟨hg r hr, trivial⟩
  unfold collectShard
  rw [if_neg (by simp [hready])]
  simp only [heq, heq']
  by_cases hcurrent : load.configHash = expected.hash
  · rw [if_pos hcurrent]
    exact ⟨_, _, rfl, rfl, hm, hready, hne'', hg'⟩
  · rw [if_neg hcurrent]
    obtain ⟨load', g'', heq'', hne''', hg''⟩ :=
      configure_of_holds (s := { s with group := g', cached := some m }) hhash hg' hne'' load m
    exact ⟨_, _, heq'', rfl, hm, hready, hne''', hg''⟩

theorem collectShard_shows (hhash : expected.hash = Sha256.hexDigest expected.raw)
    (hready : s.ready = true) (hs : s.Holds states) :
    (collectShard expected s).2.Shows (collectShard expected s).1 ∧
      (collectShard expected s).2.ready = true ∧
      ∀ h, (collectShard expected s).1.has Status.isNormal h = s.owns h := by
  by_cases hne : s.group = []
  · obtain ⟨hc, hnil, hready'⟩ := collectShard_of_nil expected hne
    refine ⟨⟨fun r hr => ?_, by simp [hc, hnil]⟩, hready'.trans hready, fun h => ?_⟩
    · rw [hnil] at hr
      cases hr
    · simp [ShardState.has, ShardState.copy?, hc, Shard.owns_of_nil hne]
  · obtain ⟨info, s', heq, hc, hstates, hready', hne', hs'⟩ :=
      collectShard_of_holds hhash hready hs hne
    rw [heq]
    have hshows : s'.Shows info := ⟨hstates.symm ▸ hs', iff_of_true hc hne'⟩
    refine ⟨hshows, hready', fun h => ?_⟩
    rw [← hshows.owns_eq, hs'.owns_eq hne', hs.owns_eq hne]

end Collection

/-! ## Sending assignments -/

theorem Coordinator.sendAssignment_shows {s : Shard InMemory} {info planned : ShardState}
    (hs : s.Shows info) (hc : planned.changeable = info.changeable)
    (hlists : planned.changeable = true → planned.assignment.Lists planned.scraping.states) :
    (sendAssignment s planned).Shows planned ∧ (sendAssignment s planned).ready = s.ready := by
  unfold sendAssignment
  by_cases hplanned : planned.changeable = true
  · rw [if_pos hplanned]
    have hne : s.group ≠ [] := hs.changeable_iff.1 (hc ▸ hplanned)
    obtain ⟨g, heq, hne', hg⟩ := hs.holds.updateTargets hne (hlists hplanned)
    rw [heq]
    exact ⟨⟨hg, iff_of_true hplanned hne'⟩, rfl⟩
  · rw [if_neg hplanned]
    have hnil : s.group = [] := by
      by_contra hne
      exact hplanned (hc.trans (hs.changeable_iff.2 hne))
    refine ⟨⟨fun r hr => ?_, iff_of_false hplanned (fun hne => hne hnil)⟩, rfl⟩
    rw [hnil] at hr
    cases hr

end ScrapeFleet
