import ScrapeFleet.Coordinator

/-!
# Replicas with a record

A replica may keep a record of the requests that reach it and of how they ended.
Nobody reads the record, so a cycle over recorded replicas is the cycle over the
plain ones, and what the record says of it is what happened there.
-/

namespace ScrapeFleet

/-- A request that reached a replica, and whether it was answered. -/
inductive Contact where
  | asked (answered : Bool)
  | pushed (ts : TargetsByJob) (accepted : Bool)
  deriving DecidableEq, Repr

namespace Contact

def succeeded : Contact → Bool
  | .asked answered => answered
  | .pushed _ accepted => accepted

def isPush : Contact → Bool
  | .asked _ => false
  | .pushed .. => true

end Contact

structure Recorded (ρ : Type) where
  endpoint : ρ
  record : List Contact := []

variable {ρ α : Type}

def Request.noted (note : Bool → Contact) (op : Request ρ α) : Request (Recorded ρ) α := fun r =>
  ((op r.endpoint).1, ⟨(op r.endpoint).2, r.record ++ [note (op r.endpoint).1.isOk]⟩)

instance [Endpoint ρ] : Endpoint (Recorded ρ) where
  address r := Endpoint.address r.endpoint
  runtime := Request.noted .asked Endpoint.runtime
  scrapeStatus := Request.noted .asked Endpoint.scrapeStatus
  pushConfig raw := Request.noted .asked (Endpoint.pushConfig raw)
  pushTargets ts := Request.noted (.pushed ts) (Endpoint.pushTargets ts)

/-! ## Beginning and dropping records -/

namespace Replica

def recorded (r : Replica ρ) : Replica (Recorded ρ) :=
  { endpoint := { endpoint := r.endpoint }, applied := r.applied }

def plain (r : Replica (Recorded ρ)) : Replica ρ :=
  { endpoint := r.endpoint.endpoint, applied := r.applied }

end Replica

namespace Shard

def recorded (s : Shard ρ) : Shard (Recorded ρ) :=
  { id := s.id, group := s.group.map Replica.recorded, ready := s.ready, cached := s.cached }

def plain (s : Shard (Recorded ρ)) : Shard ρ :=
  { id := s.id, group := s.group.map Replica.plain, ready := s.ready, cached := s.cached }

end Shard

namespace Fleet

def recorded (f : Fleet ρ) : Fleet (Recorded ρ) := ⟨f.shards.map Shard.recorded, f.active⟩

def plain (f : Fleet (Recorded ρ)) : Fleet ρ := ⟨f.shards.map Shard.plain, f.active⟩

end Fleet

namespace Coordinator

def recorded (c : Coordinator ρ) : Coordinator (Recorded ρ) :=
  { c with fleet := c.fleet.recorded }

def plain (c : Coordinator (Recorded ρ)) : Coordinator ρ :=
  { c with fleet := c.fleet.plain }

end Coordinator

/-! ## Nobody reads the record -/

/-- The request `op'` does to a recorded replica what `op` does to the plain one. -/
def Request.Lifts (op : Request ρ α) (op' : Request (Recorded ρ) α) : Prop :=
  ∀ r, op r.endpoint = ((op' r).1, (op' r).2.endpoint)

theorem Replica.ask_plain {op : Request ρ α} {op' : Request (Recorded ρ) α} (hop : op.Lifts op')
    (r : Replica (Recorded ρ)) : r.plain.ask op = ((r.ask op').1, (r.ask op').2.plain) := by
  have hlift := hop r.endpoint
  unfold Replica.ask Replica.plain
  rcases hop' : op' r.endpoint with ⟨_ | _, _⟩ <;> simp only [hlift, hop']

theorem Replica.push_plain [Endpoint ρ] (ts : TargetsByJob) (keys : AssignmentKeys)
    (r : Replica (Recorded ρ)) :
    r.plain.push ts keys = ((r.push ts keys).1, (r.push ts keys).2.plain) := by
  by_cases happlied : r.applied = some keys
  · simp [Replica.push, Replica.plain, happlied]
  · unfold Replica.push Replica.plain
    simp only [happlied, if_false, Endpoint.pushTargets, Request.noted]
    rcases h : Endpoint.pushTargets ts r.endpoint.endpoint with ⟨_ | _, _⟩ <;> rfl

theorem Replica.observe_plain (m : StatusMap) (r : Replica (Recorded ρ)) :
    r.plain.observe m = (r.observe m).plain := by
  obtain ⟨e, _ | keys⟩ := r
  · rfl
  · by_cases h : keys = .ofStatuses m <;> simp [Replica.observe, Replica.plain, Replica.forget, h]

namespace ReplicaGroup

theorem invalidate_plain (g : ReplicaGroup (Recorded ρ)) :
    invalidate (g.map Replica.plain) = (invalidate g).map Replica.plain := by
  simp only [invalidate, List.map_map]
  rfl

theorem observe_plain (g : ReplicaGroup (Recorded ρ)) (i : Nat) (m : StatusMap) :
    observe (g.map Replica.plain) i m = (observe g i m).map Replica.plain := by
  refine List.ext_getElem? fun k => ?_
  simp only [observe, List.getElem?_modify, List.getElem?_map]
  cases g[k]? with
  | none => rfl
  | some r =>
      by_cases hik : i = k
      · simp [hik, Replica.observe_plain]
      · simp [hik]

section

variable {op : Request ρ α} {op' : Request (Recorded ρ) α} (hop : op.Lifts op')

include hop

theorem broadcast_plain (g : ReplicaGroup (Recorded ρ)) :
    broadcast op (g.map Replica.plain) =
      ((g.broadcast op').1, (g.broadcast op').2.map Replica.plain) := by
  have hanswers : ((g.map Replica.plain).map (Replica.ask op)).map (·.1) =
      (g.map (Replica.ask op')).map (·.1) := by
    simp [Replica.ask_plain hop]
  have hafter : ((g.map Replica.plain).map (Replica.ask op)).map (·.2) =
      ((g.map (Replica.ask op')).map (·.2)).map Replica.plain := by
    simp [Replica.ask_plain hop]
  unfold broadcast
  simp only [hanswers, hafter, List.isEmpty_map]
  split
  · rfl
  · split
    · rw [invalidate_plain]
    · rfl

theorem read_plain (better : α → α → Bool) (g : ReplicaGroup (Recorded ρ)) :
    read op better (g.map Replica.plain) =
      ((g.read op' better).1, (g.read op' better).2.map Replica.plain) := by
  unfold read
  rw [broadcast_plain hop]
  rcases g.broadcast op' with ⟨_ | found, g'⟩
  · rfl
  · dsimp only
    cases pickBest better (found.map (·.2)) <;> rfl

end

theorem write_plain {op : Request ρ Unit} {op' : Request (Recorded ρ) Unit} (hop : op.Lifts op')
    (g : ReplicaGroup (Recorded ρ)) :
    write op (g.map Replica.plain) = ((g.write op').1, (g.write op').2.map Replica.plain) := by
  unfold write
  rw [broadcast_plain hop]
  rcases g.broadcast op' with ⟨_ | found, g'⟩ <;> rfl

theorem pushTargets_plain [Endpoint ρ] (ts : TargetsByJob) (g : ReplicaGroup (Recorded ρ)) :
    pushTargets ts (g.map Replica.plain) =
      ((g.pushTargets ts).1, (g.pushTargets ts).2.map Replica.plain) := by
  have hanswers : ((g.map Replica.plain).map (Replica.push ts (.ofTargets ts))).map (·.1) =
      (g.map (Replica.push ts (.ofTargets ts))).map (·.1) := by
    simp [Replica.push_plain]
  have hafter : ((g.map Replica.plain).map (Replica.push ts (.ofTargets ts))).map (·.2) =
      ((g.map (Replica.push ts (.ofTargets ts))).map (·.2)).map Replica.plain := by
    simp [Replica.push_plain]
  unfold pushTargets
  simp only [hanswers, hafter, List.isEmpty_map]
  split
  · rfl
  · split
    · rw [invalidate_plain]
    · rfl

end ReplicaGroup

namespace Shard

theorem after_plain (s : Shard (Recorded ρ))
    (r : Except RequestError α × ReplicaGroup (Recorded ρ)) :
    s.plain.after (r.1, r.2.map Replica.plain) = ((s.after r).1, (s.after r).2.plain) := by
  rcases r with ⟨_ | _, _⟩ <;> rfl

theorem observe_all_plain (found : List (Nat × StatusMap)) (g : ReplicaGroup (Recorded ρ)) :
    found.foldl (fun g (i, m) => ReplicaGroup.observe g i m) (g.map Replica.plain) =
      (found.foldl (fun g (i, m) => ReplicaGroup.observe g i m) g).map Replica.plain := by
  induction found generalizing g with
  | nil => rfl
  | cons e found ih =>
      simp only [List.foldl_cons, ReplicaGroup.observe_plain, ih]

variable [Endpoint ρ]

theorem runtime_plain (s : Shard (Recorded ρ)) :
    s.plain.runtime = (s.runtime.1, s.runtime.2.plain) := by
  unfold Shard.runtime
  rw [← after_plain]
  exact congrArg _ (ReplicaGroup.read_plain (fun _ => rfl) _ s.group)

theorem scrapeStatus_plain (s : Shard (Recorded ρ)) :
    s.plain.scrapeStatus = (s.scrapeStatus.1, s.scrapeStatus.2.plain) := by
  have hlifts : Request.Lifts (Endpoint.scrapeStatus : Request ρ StatusMap)
      Endpoint.scrapeStatus := fun _ => rfl
  have hplain : s.plain.group.broadcast Endpoint.scrapeStatus = _ :=
    ReplicaGroup.broadcast_plain hlifts s.group
  unfold Shard.scrapeStatus
  rcases hasked : s.group.broadcast Endpoint.scrapeStatus with ⟨_ | found, g⟩
  all_goals
    rw [hasked] at hplain
    simp only [hplain, observe_all_plain]
    rfl

theorem pushConfig_plain (raw : ByteArray) (s : Shard (Recorded ρ)) :
    s.plain.pushConfig raw = ((s.pushConfig raw).1, (s.pushConfig raw).2.plain) := by
  unfold Shard.pushConfig
  rw [← after_plain]
  exact congrArg _ (ReplicaGroup.write_plain (fun _ => rfl) s.group)

theorem updateTargets_plain (ts : TargetsByJob) (s : Shard (Recorded ρ)) :
    s.plain.updateTargets ts = ((s.updateTargets ts).1, (s.updateTargets ts).2.plain) := by
  have hafter : s.plain.after (s.plain.group.pushTargets ts) = _ :=
    (congrArg _ (ReplicaGroup.pushTargets_plain ts s.group)).trans (after_plain s _)
  unfold Shard.updateTargets
  rw [hafter]

end Shard

namespace Collection

variable [Endpoint ρ]

theorem configure_plain (expected : Config.Loaded) (load : Runtime) (m : StatusMap)
    (s : Shard (Recorded ρ)) :
    configure expected load m s.plain =
      ((configure expected load m s).1, (configure expected load m s).2.plain) := by
  unfold configure
  rw [Shard.pushConfig_plain]
  rcases s.pushConfig expected.raw with ⟨_ | _, s⟩
  · rfl
  · dsimp only
    rw [Shard.runtime_plain]
    rcases s.runtime with ⟨_ | load, s⟩
    · rfl
    · dsimp only
      split <;> rfl

theorem collectShard_plain (expected : Config.Loaded) (s : Shard (Recorded ρ)) :
    collectShard expected s.plain =
      ((collectShard expected s).1, (collectShard expected s).2.plain) := by
  unfold collectShard
  by_cases hready : s.ready = true
  · rw [if_neg (by simpa [Shard.plain] using hready), if_neg (by simpa using hready),
      Shard.scrapeStatus_plain]
    rcases s.scrapeStatus with ⟨_ | m, s⟩
    · rfl
    · dsimp only
      rw [Shard.runtime_plain]
      rcases s.runtime with ⟨_ | load, s⟩
      · rfl
      · dsimp only
        split
        · rfl
        · exact configure_plain expected load m s
  · rw [if_pos (by simpa [Shard.plain] using hready), if_pos (by simpa using hready)]
    rfl

theorem collect_plain (expected : Config.Loaded) (shards : List (Shard (Recorded ρ))) :
    collect expected (shards.map Shard.plain) =
      ((collect expected shards).1, (collect expected shards).2.map Shard.plain) := by
  simp [collect, collectShard_plain]

end Collection

namespace Fleet

theorem update_plain (f : Fleet (Recorded ρ)) (pool : List (Shard (Recorded ρ))) :
    f.plain.update (pool.map Shard.plain) = (f.update pool).plain := by
  simp [update, plain]

theorem rescale_plain (f : Fleet (Recorded ρ)) (desired : Int) :
    f.plain.rescale desired = (f.rescale desired).plain := by
  have hsize : f.plain.size desired = f.size desired := by simp [size, plain]
  have hactive : f.plain.active = f.active := rfl
  unfold rescale
  simp only [hsize, hactive]
  split
  · rfl
  · rw [plain, plain, mk.injEq]
    refine ⟨List.ext_getElem? fun i => ?_, rfl⟩
    simp only [List.getElem?_mapIdx, List.getElem?_map, Option.map_map]
    rfl

end Fleet

namespace Coordinator

variable [Endpoint ρ]

theorem sendAssignment_plain (s : Shard (Recorded ρ)) (planned : ShardState) :
    sendAssignment s.plain planned = (sendAssignment s planned).plain := by
  unfold sendAssignment
  split
  · rw [Shard.updateTargets_plain]
  · rfl

/-- A cycle over recorded replicas is the cycle over the plain ones. -/
theorem cycle_plain (now : Nat) (c : Coordinator (Recorded ρ)) :
    c.plain.cycle now = ((c.cycle now).1, (c.cycle now).2.plain) := by
  have hpool : c.plain.fleet.pool = c.fleet.pool.map Shard.plain := by
    simp [Fleet.pool, plain, Fleet.plain]
  have hsend : ∀ (shards : List (Shard (Recorded ρ))) (pool : Pool),
      (shards.map Shard.plain).zipWith sendAssignment pool =
        (shards.zipWith sendAssignment pool).map Shard.plain := by
    intro shards pool
    simp [List.zipWith_map_left, List.map_zipWith, sendAssignment_plain]
  unfold cycle
  by_cases hempty : c.fleet.pool.isEmpty = true
  · rw [if_pos (by simpa [hpool] using hempty), if_pos hempty]
  · rw [if_neg (by simpa [hpool] using hempty), if_neg hempty]
    simp only [hpool, Collection.collect_plain, hsend]
    simp only [plain, Fleet.update_plain, Fleet.rescale_plain]

omit [Endpoint ρ] in
theorem plain_recorded (c : Coordinator ρ) : c.recorded.plain = c := by
  have hreplica : ∀ g : ReplicaGroup ρ, (g.map Replica.recorded).map Replica.plain = g :=
    fun g => (List.map_map ..).trans (List.map_id g)
  have hshard : ∀ s : Shard ρ, s.recorded.plain = s := fun s => by
    simp only [Shard.plain, Shard.recorded, hreplica]
  have hfleet : c.fleet.recorded.plain = c.fleet := by
    simp only [Fleet.plain, Fleet.recorded, List.map_map, Function.comp_def, hshard, List.map_id']
  simp only [plain, recorded, hfleet]

end Coordinator

end ScrapeFleet
