import ScrapeFleet.Proofs.Fleet.Collecting
import ScrapeFleet.Proofs.Replica.FanOut

/-!
# Replicas that lag behind

The load of a shard is that of its busiest replica, and the configuration in use is read
off the same report.  A shard that may be changed therefore has one replica with the
expected configuration, the busiest one that answered; what the others run is not looked
at, and a replica that missed a configuration stays behind as long as a busier one has it.
-/

namespace ScrapeFleet

variable {ρ : Type} [Endpoint ρ]

def Runtime.busier (a b : Runtime) : Bool := b.headSeries < a.headSeries

theorem Shard.leads_of_runtime {s : Shard ρ} {load : Runtime} (h : s.runtime.1 = .ok load) :
    ∃ i, s.group.Leads Endpoint.runtime Runtime.busier i load := by
  have : IsStrictWeakOrder Runtime (fun a b => Runtime.busier a b = true) :=
    ReplicaGroup.isStrictWeakOrder_key Runtime.headSeries
  rw [Shard.runtime, Shard.fst_after] at h
  exact ReplicaGroup.leads_of_read h

namespace Collection

variable {expected : Config.Loaded} {s s' : Shard ρ} {info : ShardState}

/-- The replicas as they are when the load is read for the last time. -/
def lastAsked (expected : Config.Loaded) (s : Shard ρ) : ReplicaGroup ρ :=
  match (firstRead s).1, (sending expected s).1 with
  | .ok load, .ok () =>
    if load.configHash = expected.hash then s.scrapeStatus.2.group else (sending expected s).2.group
  | _, _ => s.scrapeStatus.2.group

/-- Replica `i` answered the last reading of the load with this one. -/
def Reports (expected : Config.Loaded) (s : Shard ρ) (i : Nat) (load : Runtime) : Prop :=
  (lastAsked expected s).AnswersWith Endpoint.runtime i load

instance (expected : Config.Loaded) (s : Shard ρ) (i : Nat) (load : Runtime) :
    Decidable (Reports expected s i load) :=
  inferInstanceAs (Decidable (ReplicaGroup.AnswersWith ..))

theorem Ends.leads (hends : Ends expected s (info, s')) (hchangeable : info.changeable = true) :
    ∃ i, (lastAsked expected s).Leads Endpoint.runtime Runtime.busier i info.runtime := by
  cases hends with
  | @current scraping load hready hstatus hload hhash =>
      have hasked : lastAsked expected s = s.scrapeStatus.2.group := by
        rw [lastAsked, hload]
        split
        · rename_i heq _
          rw [← Except.ok.inj heq, if_pos hhash]
        · rfl
      rw [hasked]
      exact Shard.leads_of_runtime hload
  | adopted hready hstatus hload hhash hsent hagain hadopted =>
      have hasked : lastAsked expected s = (sending expected s).2.group := by
        rw [lastAsked, hload, hsent]
        exact if_neg hhash
      rw [hasked]
      exact Shard.leads_of_runtime hagain
  | _ => cases hchangeable

/-- A shard that may be changed has the expected configuration on the busiest replica that
answered the last reading of the load.  All replicas that answered have it exactly if they agree
on their configuration. -/
theorem collect_uniform_iff (expected : Config.Loaded) {shards : List (Shard ρ)} {i : Nat}
    (hs : shards[i]? = some s) (hinfo : (collect expected shards).1[i]? = some info)
    (hchangeable : info.changeable = true) :
    (∃ j, (lastAsked expected s).Leads Endpoint.runtime Runtime.busier j info.runtime ∧
        info.runtime.configHash = expected.hash) ∧
      ((∀ j load, Reports expected s j load → load.configHash = expected.hash) ↔
        ∀ j k load load', Reports expected s j load → Reports expected s k load' →
          load.configHash = load'.configHash) := by
  have hends := ends_collectShard expected s
  have hcollected : info = (collectShard expected s).1 := by
    simpa [collect, hs] using hinfo.symm
  subst hcollected
  obtain ⟨j, hleads⟩ := hends.leads hchangeable
  obtain ⟨-, hhash, -⟩ := hends.shows hchangeable
  refine ⟨⟨j, hleads, hhash⟩, fun hall j k load load' hj hk => ?_, fun hagree k load hk => ?_⟩
  · rw [hall j load hj, hall k load' hk]
  · rw [hagree k j load _ hk hleads.answers, hhash]

def halfConfigured : Shard InMemory :=
  { id := "s0"
    group := .ofEndpoints
      [{ address := "a", runtime := { headSeries := 10, configHash := "old" } },
        { address := "b"
          runtime := { headSeries := 5, configHash := "old" }
          schedule := fun m => .next (if m = .pushConfig then [some .timeout] else []) }] }

def emptyConfig : Config.Loaded := { config := {}, raw := .empty, hash := Sha256.hexDigest .empty }

theorem changeable_halfConfigured :
    (collectShard emptyConfig halfConfigured).1.changeable = true := by
  decide +kernel

theorem reports_halfConfigured :
    Reports emptyConfig halfConfigured 1 { headSeries := 5, configHash := "old" } := by
  decide +kernel

theorem collect_uniform_iff_halfConfigured :
    ∃ info, (collect emptyConfig [halfConfigured]).1[0]? = some info ∧ info.changeable = true ∧
      info.runtime.configHash = emptyConfig.hash ∧
      ¬∀ j k load load', Reports emptyConfig halfConfigured j load →
        Reports emptyConfig halfConfigured k load' → load.configHash = load'.configHash := by
  have hs : [halfConfigured][0]? = some halfConfigured := rfl
  have hinfo : (collect emptyConfig [halfConfigured]).1[0]? =
      some (collectShard emptyConfig halfConfigured).1 := rfl
  obtain ⟨⟨j, hleads, hhash⟩, huniform⟩ := collect_uniform_iff emptyConfig hs hinfo
    changeable_halfConfigured
  refine ⟨_, hinfo, changeable_halfConfigured, hhash, fun hagree => ?_⟩
  have hother := huniform.2 hagree 1 _ reports_halfConfigured
  exact absurd hother (by decide +kernel)

/-- A shard may be changed although a replica has just reported another configuration. -/
theorem collect_admits_lagging :
    ¬∀ (expected : Config.Loaded) (shards : List (Shard InMemory)) (i : Nat) (s : Shard InMemory)
        (info : ShardState), shards[i]? = some s → (collect expected shards).1[i]? = some info →
        info.changeable = true → ∀ j load, Reports expected s j load →
          load.configHash = expected.hash := by
  intro hall
  have hother := hall emptyConfig [halfConfigured] 0 halfConfigured _ rfl rfl
    changeable_halfConfigured 1 _ reports_halfConfigured
  exact absurd hother (by decide +kernel)

end Collection

end ScrapeFleet
