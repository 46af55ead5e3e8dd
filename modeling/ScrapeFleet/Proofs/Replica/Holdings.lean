import ScrapeFleet.Collection
import ScrapeFleet.Proofs.Pool.Copies
import ScrapeFleet.Proofs.Replica.Requests
import ScrapeFleet.Proofs.Replica.States

/-!
# What replicas in memory hold

The replicas of a shard that never fail have all the same targets in the same
states.  Reading them and configuring them changes nothing about that, and after
an assignment they have what it lists, whether it was sent or they were known to
have it.
-/

namespace ScrapeFleet

/-! ## Replicas without failures -/

def FailureSchedule.Never : FailureSchedule → Prop
  | .always _ => False
  | .next kinds => ∀ k ∈ kinds, k = none

namespace InMemory

/-- The replica fails no request and adopts every configuration. -/
structure Reliable (r : InMemory) : Prop where
  never : ∀ m, (r.schedule m).Never
  adopts : r.adoptsConfig = true

theorem Reliable.begin {r : InMemory} (hr : r.Reliable) (m : Method) :
    ∃ r' : InMemory, r.begin m = (none, r') ∧ r'.Reliable ∧ r'.scraping = r.scraping ∧
      r'.runtime = r.runtime := by
  have hnever := hr.never m
  unfold InMemory.begin
  cases hs : r.schedule m with
  | always kind =>
      rw [hs] at hnever
      exact absurd hnever not_false
  | next kinds =>
      rw [hs] at hnever
      cases kinds with
      | nil =>
          exact ⟨{ r with calls := fun n => if n = m then r.calls n + 1 else r.calls n },
            by simp only [hs], ⟨hr.never, hr.adopts⟩, rfl, rfl⟩
      | cons k rest =>
          obtain rfl := hnever k List.mem_cons_self
          refine ⟨{ r with
            calls := fun n => if n = m then r.calls n + 1 else r.calls n
            schedule := fun n => if n = m then .next rest else r.schedule n },
            by simp only [hs], ⟨fun n => ?_, hr.adopts⟩, rfl, rfl⟩
          change (if n = m then FailureSchedule.next rest else r.schedule n).Never
          split
          · exact fun k hk => hnever k (List.mem_cons_of_mem _ hk)
          · exact hr.never n

theorem Reliable.request {α : Type} {r : InMemory} (hr : r.Reliable) (m : Method)
    (act : InMemory → α × InMemory) :
    ∃ r' : InMemory, request m act r = (.ok (act r').1, (act r').2) ∧ r'.Reliable ∧
      r'.scraping = r.scraping ∧ r'.runtime = r.runtime := by
  obtain ⟨r', heq, hrest⟩ := hr.begin m
  refine ⟨r', ?_, hrest⟩
  unfold InMemory.request
  simp only [heq]

theorem scraping_configure (r : InMemory) (raw : ByteArray) :
    (r.configure raw).scraping = r.scraping := by
  simp only [configure]
  split <;> rfl

theorem Reliable.configure {r : InMemory} (hr : r.Reliable) (raw : ByteArray) :
    (r.configure raw).Reliable := by
  simp only [InMemory.configure]
  split <;> exact ⟨hr.never, hr.adopts⟩

theorem Reliable.configHash_configure {r : InMemory} (hr : r.Reliable) (raw : ByteArray) :
    (r.configure raw).runtime.configHash = Sha256.hexDigest raw := by
  simp [InMemory.configure, hr.adopts]

def owns (h : Fingerprint) (r : InMemory) : Bool := (r.scraping.get? h).any Status.isNormal

theorem owns_eq_states (h : Fingerprint) (r : InMemory) :
    r.owns h = decide (r.scraping.states.get? h = some .normal) := by
  rw [owns, StatusMap.get?_states]
  cases r.scraping.get? h with
  | none => rfl
  | some st => simp [Status.isNormal]

end InMemory

/-! ## One replica of a group -/

/-- The replica never fails, it has the given targets and states, and the group remembers
nothing else of it. -/
structure Replica.Holds (states : SortedMap Fingerprint TargetState) (r : Replica InMemory) :
    Prop where
  reliable : r.endpoint.Reliable
  states_eq : r.endpoint.scraping.states = states
  applied : ∀ keys, r.applied = some keys → keys = .ofStatuses r.endpoint.scraping

namespace Replica

variable {states states' : SortedMap Fingerprint TargetState} {r : Replica InMemory}

theorem Holds.of_states_eq {e : InMemory} (hr : r.Holds states) (he : e.Reliable)
    (hstates : e.scraping.states = states) : Holds states { r with endpoint := e } where
  reliable := he
  states_eq := hstates
  applied keys hkeys := by
    rw [hr.applied keys hkeys]
    exact AssignmentKeys.ofStatuses_eq_iff.2 (hr.states_eq.trans hstates.symm)

theorem answers_scrapeStatus :
    Answers Endpoint.scrapeStatus (Holds states) (fun m => m.states = states) (Holds states) := by
  intro r hr
  obtain ⟨e, heq, he, hscraping, -⟩ := hr.reliable.request .scrapeStatus
    (fun e => (e.scraping, e))
  have hstates : e.scraping.states = states := by rw [hscraping, hr.states_eq]
  exact ⟨e.scraping, { r with endpoint := e }, by unfold ask; simp only [Endpoint.scrapeStatus, heq],
    hstates, hr.of_states_eq he hstates⟩

theorem answers_runtime (p : String → Prop) :
    Answers Endpoint.runtime (fun r => r.Holds states ∧ p r.endpoint.runtime.configHash)
      (fun load => p load.configHash) (Holds states) := by
  rintro r ⟨hr, hp⟩
  obtain ⟨e, heq, he, hscraping, hruntime⟩ := hr.reliable.request .runtime
    (fun e => (e.runtime, e))
  have hstates : e.scraping.states = states := by rw [hscraping, hr.states_eq]
  exact ⟨e.runtime, { r with endpoint := e }, by unfold ask; simp only [Endpoint.runtime, heq],
    by rwa [hruntime], hr.of_states_eq he hstates⟩

theorem answers_pushConfig (raw : ByteArray) :
    Answers (Endpoint.pushConfig raw) (Holds states) (fun _ => True)
      (fun r => r.Holds states ∧ r.endpoint.runtime.configHash = Sha256.hexDigest raw) := by
  intro r hr
  obtain ⟨e, heq, he, hscraping, -⟩ := hr.reliable.request .pushConfig
    (fun e => ((), e.configure raw))
  have hstates : (e.configure raw).scraping.states = states := by
    rw [InMemory.scraping_configure, hscraping, hr.states_eq]
  exact ⟨(), { r with endpoint := e.configure raw },
    by unfold ask; simp only [Endpoint.pushConfig, heq], trivial,
    hr.of_states_eq (he.configure raw) hstates, he.configHash_configure raw⟩

theorem Holds.observe (hr : r.Holds states) (m : StatusMap) :
    (r.observe m).Holds states := by
  unfold Replica.observe
  split
  · exact hr
  · split
    · exact hr
    · exact ⟨hr.reliable, hr.states_eq, fun keys hkeys => nomatch hkeys⟩

/-- After an assignment the replica has what it lists; if the group believes that the replica
has it already, that is so. -/
theorem Holds.push (hr : r.Holds states) {ts : TargetsByJob} (hlists : ts.Lists states') :
    ∃ sent r', r.push ts (.ofTargets ts) = (.ok sent, r') ∧ r'.Holds states' := by
  by_cases happlied : r.applied = some (.ofTargets ts)
  · -- What is not sent is what the replica has.
    have hsame : states' = states := by
      rw [← hr.states_eq]
      exact hlists.unique (AssignmentKeys.ofTargets_eq_ofStatuses_iff.1 (hr.applied _ happlied))
    exact ⟨false, r, by unfold Replica.push; rw [if_pos happlied], hsame ▸ hr⟩
  · obtain ⟨e, heq, he, -, -⟩ := hr.reliable.request .pushTargets
      (fun e => ((), e.assign ts))
    have hstates : (e.assign ts).scraping.states = states' := InMemory.states_assign hlists
    refine ⟨true, { endpoint := e.assign ts, applied := some (.ofTargets ts) }, ?_, ⟨⟨he.never,
      he.adopts⟩, hstates, fun keys hkeys => ?_⟩⟩
    · unfold Replica.push
      rw [if_neg happlied]
      simp only [Endpoint.pushTargets, heq]
    · rw [← Option.some.inj hkeys]
      exact AssignmentKeys.ofTargets_eq_ofStatuses_iff.2 (hstates.symm ▸ hlists)

theorem Holds.owns (hr : r.Holds states) (h : Fingerprint) :
    r.endpoint.owns h = decide (states.get? h = some .normal) := by
  rw [InMemory.owns_eq_states, hr.states_eq]

end Replica

end ScrapeFleet
