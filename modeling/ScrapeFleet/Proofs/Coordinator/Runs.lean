import ScrapeFleet.Proofs.Fleet.Soundness

/-!
# Runs of a coordinator over replicas that never fail

A run starts with replicas that scrape nothing and goes on with cycles.  Between
two cycles the replicas scrape what they have been given, so anything may change
there but which targets they have and in which state, and the coordinator may
find other targets, samples, draws and configurations.  Soundness of the fleet
is what the whole run keeps.
-/

namespace ScrapeFleet

/-! ## Between two cycles -/

/-- What may become of a replica: it keeps its targets with their states and goes on without
failing. -/
structure InMemory.Drift (r r' : InMemory) : Prop where
  states_eq : r'.scraping.states = r.scraping.states
  reliable : r'.Reliable

structure Replica.Drift (r r' : Replica InMemory) : Prop where
  endpoint : r.endpoint.Drift r'.endpoint
  applied_eq : r'.applied = r.applied

structure Shard.Drift (s s' : Shard InMemory) : Prop where
  id_eq : s'.id = s.id
  ready_eq : s'.ready = s.ready
  cached_eq : s'.cached = s.cached
  group : List.Forall₂ Replica.Drift s.group s'.group

structure Fleet.Drift (f f' : Fleet InMemory) : Prop where
  active_eq : f'.active = f.active
  shards : List.Forall₂ Shard.Drift f.shards f'.shards

theorem Replica.Holds.drift {states : SortedMap Fingerprint TargetState} {r r' : Replica InMemory}
    (hr : r.Holds states) (hdrift : r.Drift r') : r'.Holds states := by
  obtain ⟨⟨hstates, hreliable⟩, happlied⟩ := hdrift
  refine ⟨hreliable, hstates.trans hr.states_eq, fun keys hkeys => ?_⟩
  rw [hr.applied keys (happlied ▸ hkeys)]
  exact AssignmentKeys.ofStatuses_eq_iff.2 hstates.symm

theorem Shard.Drift.holds {states : SortedMap Fingerprint TargetState} {s s' : Shard InMemory}
    (hdrift : s.Drift s') (hs : s.Holds states) : s'.Holds states := by
  intro r' hr'
  obtain ⟨i, hi, rfl⟩ := List.mem_iff_getElem.1 hr'
  have hi' : i < s.group.length := hdrift.group.length_eq ▸ hi
  exact (hs _ (List.getElem_mem hi')).drift (hdrift.group.get hi' hi)

private theorem map_eq_of_forall₂ {α β γ : Type} {R : α → β → Prop} {p : α → γ} {q : β → γ}
    {l : List α} {l' : List β} (hR : ∀ a b, R a b → q b = p a) (hl : List.Forall₂ R l l') :
    l'.map q = l.map p := by
  induction hl with
  | nil => rfl
  | cons hhead _ ih => rw [List.map_cons, List.map_cons, hR _ _ hhead, ih]

theorem Shard.Drift.owns_eq {s s' : Shard InMemory} (hdrift : s.Drift s') (h : Fingerprint) :
    s'.owns h = s.owns h := by
  have hmap : s'.group.map (·.endpoint.owns h) = s.group.map (·.endpoint.owns h) := by
    refine map_eq_of_forall₂ (fun r r' hr => ?_) hdrift.group
    rw [InMemory.owns_eq_states, InMemory.owns_eq_states, hr.endpoint.states_eq]
  have hany := congrArg (fun l => l.any fun b => b) hmap
  simp only [List.any_map] at hany
  exact hany

namespace Fleet

variable {maxShards : Int} {f f' : Fleet InMemory}

theorem Drift.getElem? (hdrift : f.Drift f') {i : Nat} {s' : Shard InMemory}
    (hs : f'.shards[i]? = some s') : ∃ s, f.shards[i]? = some s ∧ s.Drift s' := by
  obtain ⟨hi, rfl⟩ := List.getElem?_eq_some_iff.1 hs
  have hi' : i < f.shards.length := hdrift.shards.length_eq ▸ hi
  exact ⟨f.shards[i], List.getElem?_eq_getElem hi', hdrift.shards.get hi' hi⟩

theorem Drift.owners_eq (hdrift : f.Drift f') (h : Fingerprint) : f'.owners h = f.owners h := by
  have hmap : f'.shards.map (·.owns h) = f.shards.map (·.owns h) :=
    map_eq_of_forall₂ (fun _ _ hs => hs.owns_eq h) hdrift.shards
  have hcount := congrArg (List.countP id) hmap
  rwa [List.countP_map, List.countP_map] at hcount

theorem Sound.drift_self (hf : f.Sound maxShards) : f.Drift f where
  active_eq := rfl
  shards := List.forall₂_same.2 fun s hs => by
    obtain ⟨states, hholds⟩ := hf.holds s hs
    exact ⟨rfl, rfl, rfl, List.forall₂_same.2 fun r hr => ⟨⟨rfl, (hholds r hr).reliable⟩, rfl⟩⟩

theorem Sound.drift (hf : f.Sound maxShards) (hdrift : f.Drift f') : f'.Sound maxShards where
  one_le := hdrift.active_eq ▸ hf.one_le
  active_le := by
    rw [hdrift.active_eq, ← hdrift.shards.length_eq]
    exact hf.active_le
  active_le_max := hdrift.active_eq ▸ hf.active_le_max
  ready i s' hs hi := by
    obtain ⟨s, hs, hdrifts⟩ := hdrift.getElem? hs
    rw [hdrifts.ready_eq]
    exact hf.ready i s hs (hdrift.active_eq ▸ hi)
  holds s' hmem := by
    obtain ⟨i, hs⟩ := List.mem_iff_getElem?.1 hmem
    obtain ⟨s, hs, hdrifts⟩ := hdrift.getElem? hs
    obtain ⟨states, hholds⟩ := hf.holds s (List.mem_of_getElem? hs)
    exact ⟨states, hdrifts.holds hholds⟩
  parked i s' hs hi h := by
    obtain ⟨s, hs, hdrifts⟩ := hdrift.getElem? hs
    rw [hdrifts.owns_eq]
    exact hf.parked i s hs (hdrift.active_eq ▸ hi) h
  owners_le h := by
    rw [hdrift.owners_eq]
    exact hf.owners_le h

end Fleet

/-! ## Runs -/

def Config.Loaded.Intact (l : Config.Loaded) : Prop := l.hash = Sha256.hexDigest l.raw

theorem Config.intact_of_load {raw : ByteArray} {l : Config.Loaded} (hl : load raw = .ok l) :
    l.Intact := by
  unfold load at hl
  split at hl
  · cases hl
  · split at hl
    · cases hl
    · split at hl
      · cases hl
      · obtain rfl := Except.ok.inj hl
        rfl

structure Shard.Fresh (s : Shard InMemory) : Prop where
  ready : s.ready = true
  applied : ∀ r ∈ s.group, r.applied = none
  reliable : ∀ r ∈ s.group, r.endpoint.Reliable
  scraping : ∀ r ∈ s.group, r.endpoint.scraping = ∅

theorem Shard.fresh_ofEndpoints {id : String} {es : List InMemory}
    (hes : ∀ e ∈ es, e.Reliable ∧ e.scraping = ∅) : (Shard.ofEndpoints id es).Fresh := by
  have hgroup : ∀ r ∈ (Shard.ofEndpoints id es).group, ∃ e ∈ es, r = { endpoint := e } := by
    intro r hr
    obtain ⟨e, he, rfl⟩ := List.mem_map.1 hr
    exact ⟨e, he, rfl⟩
  refine ⟨rfl, fun r hr => ?_, fun r hr => ?_, fun r hr => ?_⟩
  all_goals obtain ⟨e, he, rfl⟩ := hgroup r hr
  · rfl
  · exact (hes e he).1
  · exact (hes e he).2

theorem Shard.Fresh.holds {s : Shard InMemory} (hs : s.Fresh) : s.Holds ∅ := fun r hr =>
  ⟨hs.reliable r hr, by rw [hs.scraping r hr]; rfl, fun keys hkeys => by
    rw [hs.applied r hr] at hkeys
    cases hkeys⟩

theorem Shard.Fresh.owns_eq_false {s : Shard InMemory} (hs : s.Fresh) (h : Fingerprint) :
    s.owns h = false := by
  refine List.any_eq_false.2 fun r hr => ?_
  rw [InMemory.owns, hs.scraping r hr]
  exact Bool.false_ne_true

theorem Fleet.sound_of_fresh {shards : List (Shard InMemory)} {f : Fleet InMemory}
    (hf : Fleet.ofShards shards = .ok f) (hfresh : ∀ s ∈ shards, s.Fresh) (maxShards : Int) :
    f.Sound maxShards := by
  cases shards with
  | nil => cases hf
  | cons first rest =>
      obtain rfl := Except.ok.inj hf
      have hshards : ∀ s ∈ first :: rest.map (·.setReady false),
          (∃ states, s.Holds states) ∧ ∀ h, s.owns h = false := by
        intro s hmem
        rcases List.mem_cons.1 hmem with rfl | hmem
        · have hs := hfresh s List.mem_cons_self
          exact ⟨⟨∅, hs.holds⟩, hs.owns_eq_false⟩
        · obtain ⟨t, ht, rfl⟩ := List.mem_map.1 hmem
          have hs := hfresh t (List.mem_cons_of_mem first ht)
          exact ⟨⟨∅, hs.holds⟩, hs.owns_eq_false⟩
      refine ⟨le_rfl, by simp, le_max_left _ _, fun i s hs hi => ?_, fun s hmem => (hshards s hmem).1,
        fun i s hs _ => (hshards s (List.mem_of_getElem? hs)).2, fun h => ?_⟩
      · obtain rfl : i = 0 := Nat.lt_one_iff.1 hi
        obtain rfl := Option.some.inj hs
        exact (hfresh first List.mem_cons_self).ready
      · have hnone : List.countP (·.owns h) (first :: rest.map (·.setReady false)) = 0 :=
          List.countP_eq_zero.2 fun s hmem => by simp [(hshards s hmem).2 h]
        rw [Fleet.owners, hnone]
        exact Nat.zero_le 1

namespace Coordinator

theorem cycle_sound {c : Coordinator InMemory}
    (hsound : c.fleet.Sound c.planner.policy.maxShards) (hintact : c.config.Intact) (now : Nat) :
    (c.cycle now).2.fleet.Sound c.planner.policy.maxShards ∧
      (c.cycle now).2.planner.policy = c.planner.policy ∧
      ∀ h ∈ c.targets.active.hashes, 0 < c.fleet.owners h → 0 < (c.cycle now).2.fleet.owners h := by
  have hpool : c.fleet.pool.length = c.fleet.active := by
    simp [Fleet.pool, hsound.active_le]
  have hne : c.fleet.pool.isEmpty = false := by
    have hone := hsound.one_le
    rw [← hpool] at hone
    simpa using List.ne_nil_of_length_pos hone
  have hready : ∀ s ∈ c.fleet.pool, s.ready = true ∧ ∃ states, s.Holds states := by
    intro s hmem
    obtain ⟨i, hs⟩ := List.mem_iff_getElem?.1 hmem
    have hi : i < c.fleet.active := hpool ▸ (List.getElem?_eq_some_iff.1 hs).1
    rw [Fleet.pool, List.getElem?_take_of_lt hi] at hs
    exact ⟨hsound.ready i s hs hi, hsound.holds s (List.mem_of_getElem? hs)⟩
  obtain ⟨hshow, hread⟩ := Collection.collect_show hintact hready
  have hlength : (Collection.collect c.config c.fleet.pool).1.length = c.fleet.active := by
    simp [Collection.collect, hpool]
  have howners : ∀ h, (Collection.collect c.config c.fleet.pool).1.owners h = c.fleet.owners h :=
    fun h => (hread h).trans (hsound.countP_pool h)
  obtain ⟨hsound', hcount⟩ := hsound.planned hshow hlength howners Explorer.lookup now
    c.targets.active (c.explorer.updateTargets c.targets.active)
  unfold cycle
  simp only [hne, Bool.false_eq_true, if_false]
  refine ⟨hsound', rfl, fun h hactive hpos => ?_⟩
  rw [hcount, ← Pool.owned_iff_owners]
  rw [← howners, ← Pool.owned_iff_owners] at hpos
  exact Planner.owned_plan Explorer.lookup now c.targets.active c.planner _ _ hactive hpos

/-- What may happen between two cycles: replicas scrape, and the coordinator gets other targets,
samples, draws or configurations. -/
structure Between (c c' : Coordinator InMemory) : Prop where
  fleet : c.fleet.Drift c'.fleet
  policy_eq : c'.planner.policy = c.planner.policy
  intact : c'.config.Intact

/-- The states of a coordinator after any number of cycles. -/
inductive FaultFree : Coordinator InMemory → Prop
  | start {c : Coordinator InMemory} (shards : List (Shard InMemory)) :
      Fleet.ofShards shards = .ok c.fleet → (∀ s ∈ shards, s.Fresh) → FaultFree c
  | cycle {c c' : Coordinator InMemory} (now : Nat) :
      FaultFree c → c.Between c' → FaultFree (c'.cycle now).2

theorem faultFree_of_start {l : Config.Loaded} {shards : List (Shard InMemory)} {draws : Draws}
    {c : Coordinator InMemory} (hc : start l shards draws = .ok c) (hfresh : ∀ s ∈ shards, s.Fresh) :
    FaultFree c := by
  refine .start shards ?_ hfresh
  cases hfleet : Fleet.ofShards shards with
  | error fault =>
      simp only [start, hfleet, bind, Except.bind, Except.mapError] at hc
      split at hc <;> cases hc
  | ok fleet =>
      simp only [start, hfleet, bind, Except.bind, Except.mapError, pure, Except.pure] at hc
      repeat' split at hc
      all_goals cases hc
      rfl

theorem FaultFree.sound {c : Coordinator InMemory} (run : FaultFree c) :
    c.fleet.Sound c.planner.policy.maxShards := by
  induction run with
  | start shards hfleet hfresh => exact Fleet.sound_of_fresh hfleet hfresh _
  | cycle now _ between ih =>
      have hsound := ih.drift between.fleet
      rw [← between.policy_eq] at hsound
      obtain ⟨hsound', hpolicy, -⟩ := cycle_sound hsound between.intact now
      rwa [hpolicy]

/-- Along a run no target has two owners, and none that stays active loses the owner that it has
in the pool. -/
theorem FaultFree.ownership {c : Coordinator InMemory} (run : FaultFree c) (h : Fingerprint) :
    c.fleet.owners h ≤ 1 ∧
      ∀ (c' : Coordinator InMemory) (now : Nat), c.Between c' → h ∈ c'.targets.active.hashes →
        c.fleet.pool.any (·.owns h) = true →
        (c'.cycle now).2.fleet.pool.any (·.owns h) = true := by
  refine ⟨run.sound.owners_le h, fun c' now between hactive howned => ?_⟩
  have hsound := run.sound.drift between.fleet
  rw [← between.policy_eq] at hsound
  obtain ⟨hsound', -, hkeeps⟩ := cycle_sound hsound between.intact now
  rw [run.sound.any_pool_iff, ← between.fleet.owners_eq] at howned
  rw [hsound'.any_pool_iff]
  exact hkeeps h hactive howned

def waiting : Coordinator InMemory :=
  let target : Target := { hash := 1, job := "node", url := "" }
  let known : ExploredTarget := { target, status := { health := .good, series := 10 } }
  let first : Shard InMemory := .ofEndpoints "s0" [{ address := "a:80" }, { address := "b:80" }]
  let second : Shard InMemory := .ofEndpoints "s1" [{ address := "c:80" }]
  { config := { config := {}, raw := .empty, hash := Sha256.hexDigest .empty }
    targets := { active := .ofList [("node", [target])] }
    settings := ∅
    fleet := ⟨[first, second.setReady false], 1⟩
    explorer := { jobs := .ofList [("node", .ofList [(1, known)])], capacity := 1 }
    retry := .ofSecs 30
    planner := { policy := ⟨100, 4, .ofSecs 60, .ofSecs 15⟩, draws := { ahead := [] } } }

theorem FaultFree.ownership_of_waiting :
    let first := (waiting.cycle 1000).2
    let second := (first.cycle 1015).2
    (FaultFree first ∧ first.Between first ∧ 1 ∈ first.targets.active.hashes ∧
        first.fleet.pool.any (·.owns 1) = true) ∧
      first.fleet.owners 1 ≤ 1 ∧ second.fleet.pool.any (·.owns 1) = true := by
  intro first second
  have hreliable : ∀ address, InMemory.Reliable { address } :=
    fun _ => ⟨fun _ _ hk => absurd hk List.not_mem_nil, rfl⟩
  have hstart : FaultFree waiting := by
    refine .start [.ofEndpoints "s0" [{ address := "a:80" }, { address := "b:80" }],
      .ofEndpoints "s1" [{ address := "c:80" }]] rfl fun s hs => ?_
    simp only [List.mem_cons, List.not_mem_nil, or_false] at hs
    rcases hs with rfl | rfl
    all_goals
      refine Shard.fresh_ofEndpoints fun e he => ?_
      simp only [List.mem_cons, List.not_mem_nil, or_false] at he
    · rcases he with rfl | rfl <;> exact ⟨hreliable _, rfl⟩
    · rcases he with rfl
      exact ⟨hreliable _, rfl⟩
  have hrun : FaultFree first := .cycle 1000 hstart ⟨hstart.sound.drift_self, rfl, rfl⟩
  have hbetween : first.Between first := ⟨hrun.sound.drift_self, rfl, rfl⟩
  have hactive : 1 ∈ first.targets.active.hashes := by decide +kernel
  have howned : first.fleet.pool.any (·.owns 1) = true := by decide +kernel
  obtain ⟨hone, hkeeps⟩ := hrun.ownership 1
  exact ⟨⟨hrun, hbetween, hactive, howned⟩, hone, hkeeps first 1015 hbetween hactive howned⟩

end Coordinator

end ScrapeFleet
