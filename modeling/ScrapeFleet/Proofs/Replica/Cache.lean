import Mathlib.Data.Nat.Basic
import ScrapeFleet.Proofs.Replica.FanOut

/-!
# What a shard was last seen to scrape

A shard keeps the report of its last successful reading.  Any later request that fails
on all replicas makes it forget the report, whatever kind of request it is, and so does
invalidating the shard.  A reading takes the report of the first replica among those
with the most targets.
-/

namespace ScrapeFleet

variable {ρ α : Type}

/-! ## Calls to a shard -/

inductive ShardCall where
  | runtime
  | scrapeStatus
  | pushConfig (raw : ByteArray)
  | updateTargets (ts : TargetsByJob)
  | invalidate
  | setReady (ready : Bool)

/-- What a call has to do with the report that a shard keeps. -/
inductive ShardEvent where
  | reported (m : StatusMap)
  | passed
  | failed
  | invalidated
  deriving DecidableEq

namespace ShardEvent

def ofResult : Except RequestError α → ShardEvent
  | .ok _ => .passed
  | .error _ => .failed

def ofReading : Except RequestError StatusMap → ShardEvent
  | .ok m => .reported m
  | .error _ => .failed

def keep (kept : Option StatusMap) : ShardEvent → Option StatusMap
  | .reported m => some m
  | .passed => kept
  | .failed => none
  | .invalidated => none

/-- The last reading returned `m`, and no later event casts doubt on it. -/
def LastReport (history : List ShardEvent) (m : StatusMap) : Prop :=
  ∃ before after, history = before ++ .reported m :: after ∧ ∀ e ∈ after, e = .passed

theorem cases_of_keep {kept : Option StatusMap} {e : ShardEvent} {m : StatusMap}
    (h : e.keep kept = some m) : e = .reported m ∨ e = .passed ∧ kept = some m := by
  cases e with
  | reported m' => exact .inl (congrArg reported (Option.some.inj h))
  | passed => exact .inr ⟨rfl, h⟩
  | failed => cases h
  | invalidated => cases h

theorem foldl_keep_eq_some_iff {history : List ShardEvent} {m : StatusMap} :
    history.foldl keep none = some m ↔ LastReport history m := by
  constructor
  · intro h
    -- The last event is the reading itself, or it has left an earlier one in force.
    induction history using List.reverseRecOn with
    | nil => cases h
    | append_singleton history e ih =>
        rw [List.foldl_append, List.foldl_cons, List.foldl_nil] at h
        rcases cases_of_keep h with rfl | ⟨rfl, hkept⟩
        · exact ⟨history, [], rfl, fun e he => absurd he List.not_mem_nil⟩
        · obtain ⟨before, after, rfl, hafter⟩ := ih hkept
          refine ⟨before, after ++ [.passed], by simp, fun e he => ?_⟩
          rcases List.mem_append.1 he with he | he
          · exact hafter e he
          · exact List.mem_singleton.1 he
  · rintro ⟨before, after, rfl, hafter⟩
    rw [List.foldl_append, List.foldl_cons]
    change after.foldl keep (some m) = some m
    induction after with
    | nil => rfl
    | cons e after ih =>
        rw [List.foldl_cons, hafter e List.mem_cons_self]
        exact ih fun e he => hafter e (List.mem_cons_of_mem _ he)

end ShardEvent

namespace ShardCall

variable [Endpoint ρ]

def run : ShardCall → Shard ρ → Shard ρ
  | .runtime, s => s.runtime.2
  | .scrapeStatus, s => s.scrapeStatus.2
  | .pushConfig raw, s => (s.pushConfig raw).2
  | .updateTargets ts, s => (s.updateTargets ts).2
  | .invalidate, s => s.invalidate
  | .setReady ready, s => s.setReady ready

def event : ShardCall → Shard ρ → ShardEvent
  | .runtime, s => .ofResult s.runtime.1
  | .scrapeStatus, s => .ofReading s.scrapeStatus.1
  | .pushConfig raw, s => .ofResult (s.pushConfig raw).1
  | .updateTargets ts, s => .ofResult (s.updateTargets ts).1
  | .invalidate, _ => .invalidated
  | .setReady _, _ => .passed

/-- The call is a request, and no replica answers it. -/
def FailsOnAll : ShardCall → Shard ρ → Prop
  | .runtime, s => ¬s.group.SomeAnswers Endpoint.runtime
  | .scrapeStatus, s => ¬s.group.SomeAnswers Endpoint.scrapeStatus
  | .pushConfig raw, s => ¬s.group.SomeAnswers (Endpoint.pushConfig raw)
  | .updateTargets ts, s => ¬∃ r ∈ s.group, r.has ts = true ∨ r.accepts ts = true
  | .invalidate, _ => False
  | .setReady _, _ => False

def runAll : List ShardCall → Shard ρ → Shard ρ
  | [], s => s
  | c :: calls, s => runAll calls (c.run s)

def history : List ShardCall → Shard ρ → List ShardEvent
  | [], _ => []
  | c :: calls, s => c.event s :: history calls (c.run s)

end ShardCall

/-! ## One call -/

namespace Shard

theorem cached_after (s : Shard ρ) (r : Except RequestError α × ReplicaGroup ρ) :
    (s.after r).2.cached = (ShardEvent.ofResult r.1).keep s.cached := by
  rcases r with ⟨_ | _, _⟩ <;> rfl

end Shard

namespace ShardCall

variable [Endpoint ρ]

theorem cached_run (c : ShardCall) (s : Shard ρ) : (c.run s).cached = (c.event s).keep s.cached := by
  cases c with
  | runtime => rw [run, event, Shard.runtime, Shard.cached_after, Shard.fst_after]
  | scrapeStatus =>
      rw [run, event]
      unfold Shard.scrapeStatus
      split <;> rfl
  | pushConfig raw => rw [run, event, Shard.pushConfig, Shard.cached_after, Shard.fst_after]
  | updateTargets ts =>
      rw [run, event]
      unfold Shard.updateTargets
      dsimp only
      rw [Shard.cached_after, Shard.fst_after]
      cases (s.group.pushTargets ts).1 <;> rfl
  | invalidate => rfl
  | setReady ready => rfl

theorem ofResult_eq_failed_iff {x : Except RequestError α} :
    ShardEvent.ofResult x = .failed ↔ ¬x.isOk = true := by
  cases x <;> simp [ShardEvent.ofResult, Except.isOk, Except.toBool]

theorem event_eq_failed_iff (c : ShardCall) (s : Shard ρ) : c.event s = .failed ↔ c.FailsOnAll s := by
  cases c with
  | runtime => rw [event, ofResult_eq_failed_iff, Shard.isOk_runtime_iff, FailsOnAll]
  | scrapeStatus =>
      rw [event, FailsOnAll, ← Shard.isOk_scrapeStatus_iff]
      cases s.scrapeStatus.1 <;> simp [ShardEvent.ofReading, Except.isOk, Except.toBool]
  | pushConfig raw => rw [event, ofResult_eq_failed_iff, Shard.isOk_pushConfig_iff, FailsOnAll]
  | updateTargets ts =>
      rw [event, ofResult_eq_failed_iff, FailsOnAll, ← ReplicaGroup.isOk_pushTargets_iff]
      unfold Shard.updateTargets
      dsimp only
      rw [Shard.fst_after]
      cases (s.group.pushTargets ts).1 <;> rfl
  | invalidate => exact iff_of_false (by rintro ⟨⟩) not_false
  | setReady ready => exact iff_of_false (by rintro ⟨⟩) not_false

end ShardCall

/-! ## Readings -/

namespace Shard

/-- A report without targets is as good as none, so that the first report is the first best. -/
theorem pickBest_eq_largest {reports : List StatusMap} (hne : reports ≠ []) :
    ReplicaGroup.pickBest (fun a b => b.size < a.size) reports = some (largest reports) := by
  obtain ⟨m, rest, rfl⟩ := List.exists_cons_of_ne_nil hne
  have hfirst : (if (∅ : StatusMap).size < m.size then m else ∅) = m := by
    split
    · rfl
    · rename_i hsize
      exact (SortedMap.eq_empty_of_size (Nat.le_zero.1 (Nat.not_lt.1 hsize))).symm
  rw [ReplicaGroup.pickBest_cons, largest, List.foldl_cons, hfirst]
  simp only [decide_eq_true_eq]

theorem leads_of_scrapeStatus [Endpoint ρ] {s : Shard ρ} {m : StatusMap}
    (h : s.scrapeStatus.1 = .ok m) :
    ∃ i, s.group.Leads Endpoint.scrapeStatus (fun a b => b.size < a.size) i m := by
  have := ReplicaGroup.isStrictWeakOrder_key (fun m : StatusMap => m.size)
  unfold Shard.scrapeStatus at h
  split at h
  · cases h
  · rename_i found g hasked
    obtain rfl := Except.ok.inj h
    have hne : found.map (·.2) ≠ [] := by simpa using (ReplicaGroup.broadcast_eq_ok hasked).1
    exact ReplicaGroup.exists_leads (congrArg Prod.fst hasked) (pickBest_eq_largest hne)

end Shard

/-! ## Runs -/

namespace ShardCall

open ShardEvent

variable [Endpoint ρ]

theorem cached_runAll (calls : List ShardCall) (s : Shard ρ) :
    (runAll calls s).cached = (history calls s).foldl keep s.cached := by
  induction calls generalizing s with
  | nil => rfl
  | cons c calls ih => rw [runAll, history, List.foldl_cons, ih, cached_run]

/-- Whatever calls have been made to a shard of new replicas, it shows the report of its last
reading if no later call failed on all replicas and it was not invalidated since, and nothing
otherwise.  A further reading returns the report of the first replica among those with the most
targets. -/
theorem scraping_runAll (id : String) (es : List ρ) (calls : List ShardCall) :
    let s := runAll calls (Shard.ofEndpoints id es)
    let events := history calls (Shard.ofEndpoints id es)
    (∀ m, LastReport events m → s.scraping = m) ∧
      ((¬∃ m, LastReport events m) → s.scraping = ∅) ∧
      (∀ c : ShardCall, c.event s = .failed ↔ c.FailsOnAll s) ∧
      ∀ m, s.scrapeStatus.1 = .ok m →
        ∃ i, s.group.Leads Endpoint.scrapeStatus (fun a b => b.size < a.size) i m := by
  intro s events
  have hcached : s.cached = events.foldl keep none := cached_runAll calls _
  refine ⟨fun m hm => ?_, fun hnone => ?_, fun c => event_eq_failed_iff c s, fun m hm =>
    Shard.leads_of_scrapeStatus hm⟩
  · rw [Shard.scraping, hcached, foldl_keep_eq_some_iff.2 hm]
    rfl
  · cases hkept : events.foldl keep none with
    | none =>
        rw [Shard.scraping, hcached, hkept]
        rfl
    | some m => exact absurd ⟨m, foldl_keep_eq_some_iff.1 hkept⟩ hnone

theorem scraping_runAll_of_partlySilent :
    let report : StatusMap := .ofList [(1, .fresh 5)]
    let es : List InMemory :=
      [{ address := "a", schedule := fun _ => .always .timeout },
        { address := "b"
          scraping := report
          schedule := fun m => .next (if m = .scrapeStatus then [none, some .timeout] else []) }]
    let calls : List ShardCall := [.scrapeStatus, .runtime, .setReady false, .updateTargets ∅]
    (runAll calls (.ofEndpoints "s0" es)).scraping = report ∧
      (runAll (calls ++ [.scrapeStatus]) (.ofEndpoints "s0" es)).scraping = ∅ := by
  intro report es calls
  obtain ⟨hshown, -, -, -⟩ := scraping_runAll "s0" es calls
  obtain ⟨-, hhidden, -, -⟩ := scraping_runAll "s0" es (calls ++ [.scrapeStatus])
  refine ⟨hshown report ⟨[], [.passed, .passed, .passed], by decide +kernel, by simp⟩, hhidden ?_⟩
  rintro ⟨m, hm⟩
  have hnone : (history (calls ++ [.scrapeStatus]) (.ofEndpoints "s0" es)).foldl keep none = none := by
    decide +kernel
  rw [foldl_keep_eq_some_iff.2 hm] at hnone
  cases hnone

end ShardCall

end ScrapeFleet
