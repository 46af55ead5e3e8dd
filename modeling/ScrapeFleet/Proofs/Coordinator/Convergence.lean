import ScrapeFleet.Proofs.Fleet.Collecting
import ScrapeFleet.Proofs.Fleet.Soundness
import ScrapeFleet.Proofs.Replica.Records

/-!
# Replicas converge to the plan

Planning sees a shard through the report of its fullest replica; the others may be
behind it or have something else, and any of them may fail at any time.  A replica
that answers everything in a cycle nevertheless has afterwards what was planned for
its shard.  Its own report is compared with what the group remembers of it, so by
the time of the assignments the group is right about the replica or remembers
nothing, and an assignment that is left out is one that the replica has.
-/

namespace ScrapeFleet

variable {ρ α : Type}

/-- Replicas with the targets and states that `holds` gives: they report these, and only an
assignment that they accept changes them.  Requests that fail may leave anything. -/
structure Faithful [Endpoint ρ] (holds : ρ → SortedMap Fingerprint TargetState) : Prop where
  runtime : ∀ {e load e'}, Endpoint.runtime e = (.ok load, e') → holds e' = holds e
  scrapeStatus : ∀ {e m e'}, Endpoint.scrapeStatus e = (.ok m, e') →
    m.states = holds e ∧ holds e' = holds e
  pushConfig : ∀ {raw e e'}, Endpoint.pushConfig raw e = (.ok (), e') → holds e' = holds e
  pushTargets : ∀ {ts e e' states}, Endpoint.pushTargets ts e = (.ok (), e') → ts.Lists states →
    holds e' = states

namespace InMemory

theorem begin_scraping (m : Method) (r : InMemory) : (r.begin m).2.scraping = r.scraping := by
  unfold InMemory.begin
  cases hs : r.schedule m with
  | always kind => simp only [hs]
  | next kinds => cases kinds <;> simp only [hs]

theorem request_eq_ok {m : Method} {act : InMemory → α × InMemory} {r r' : InMemory} {a : α}
    (h : request m act r = (.ok a, r')) :
    ∃ r₀ : InMemory, r₀.scraping = r.scraping ∧ act r₀ = (a, r') := by
  have hscraping := begin_scraping m r
  unfold request at h
  rcases hbegin : r.begin m with ⟨_ | kind, r₀⟩
  all_goals
    rw [hbegin] at h hscraping
    cases h
  exact ⟨r₀, hscraping, rfl⟩

theorem faithful : Faithful fun r : InMemory => r.scraping.states where
  runtime h := by
    obtain ⟨r₀, hscraping, hact⟩ := request_eq_ok h
    obtain ⟨-, rfl⟩ := Prod.mk.inj hact
    exact congrArg StatusMap.states hscraping
  scrapeStatus h := by
    obtain ⟨r₀, hscraping, hact⟩ := request_eq_ok h
    obtain ⟨rfl, rfl⟩ := Prod.mk.inj hact
    exact ⟨congrArg StatusMap.states hscraping, congrArg StatusMap.states hscraping⟩
  pushConfig h := by
    obtain ⟨r₀, hscraping, hact⟩ := request_eq_ok h
    obtain ⟨-, rfl⟩ := Prod.mk.inj hact
    exact congrArg StatusMap.states ((scraping_configure _ _).trans hscraping)
  pushTargets h hlists := by
    obtain ⟨r₀, -, hact⟩ := request_eq_ok h
    obtain ⟨-, rfl⟩ := Prod.mk.inj hact
    exact states_assign hlists

end InMemory

def AssignmentKeys.Tell (states : SortedMap Fingerprint TargetState) (keys : AssignmentKeys) :
    Prop :=
  ∀ h state, keys.has h state = true ↔ states.get? h = some state

theorem AssignmentKeys.tell_ofStatuses (m : StatusMap) : (ofStatuses m).Tell m.states :=
  fun _ _ => has_ofStatuses

theorem AssignmentKeys.Tell.eq_of_lists {states states' : SortedMap Fingerprint TargetState}
    {ts : TargetsByJob} (htell : (ofTargets ts).Tell states) (hlists : ts.Lists states') :
    states = states' := by
  refine SortedMap.ext fun h => Option.ext fun state => ?_
  rw [← htell h state, has_ofTargets]
  exact hlists h state

/-! ## One replica -/

namespace Replica

def Answered (r : Replica (Recorded ρ)) : Prop := ∀ c ∈ r.endpoint.record, c.succeeded = true

/-- No assignment has been sent to the replica. -/
def Unsent (r : Replica (Recorded ρ)) : Prop := ∀ c ∈ r.endpoint.record, c.isPush = false

/-- No assignment has been sent to the replica, and if it has answered everything, nothing wrong
is remembered of it. -/
structure Known (holds : ρ → SortedMap Fingerprint TargetState) (r : Replica (Recorded ρ)) :
    Prop where
  unsent : r.Unsent
  tell : r.Answered → ∀ keys, r.applied = some keys → keys.Tell (holds r.endpoint.endpoint)

variable {holds : ρ → SortedMap Fingerprint TargetState} {r : Replica (Recorded ρ)}
  {op : Request ρ α}

theorem record_ask (op : Request ρ α) (r : Replica (Recorded ρ)) :
    (r.ask (op.noted .asked)).2.endpoint.record =
      r.endpoint.record ++ [.asked (op r.endpoint.endpoint).1.isOk] := by
  unfold ask Request.noted
  rcases op r.endpoint.endpoint with ⟨_ | _, _⟩ <;> rfl

theorem Unsent.ask (hr : r.Unsent) (op : Request ρ α) : (r.ask (op.noted .asked)).2.Unsent := by
  intro c hc
  rw [record_ask] at hc
  rcases List.mem_append.1 hc with hc | hc
  · exact hr c hc
  · rw [List.mem_singleton.1 hc]
    rfl

theorem Answered.of_ask (hr : (r.ask (op.noted .asked)).2.Answered) :
    r.Answered ∧ ∃ a e, op r.endpoint.endpoint = (.ok a, e) ∧
      r.ask (op.noted .asked) =
        (.ok a, { endpoint := ⟨e, r.endpoint.record ++ [.asked true]⟩, applied := r.applied }) := by
  unfold Answered at hr
  rw [record_ask] at hr
  refine ⟨fun c hc => hr c (List.mem_append_left _ hc), ?_⟩
  have hok := hr _ (List.mem_append_right _ List.mem_cons_self)
  unfold Replica.ask Request.noted
  rcases hop : op r.endpoint.endpoint with ⟨_ | a, e⟩
  · rw [hop] at hok
    cases hok
  · exact ⟨a, e, rfl, rfl⟩

theorem Known.ask (hr : r.Known holds)
    (hkeeps : ∀ {e a e'}, op e = (.ok a, e') → holds e' = holds e) :
    (r.ask (op.noted .asked)).2.Known holds where
  unsent := hr.unsent.ask op
  tell hanswered keys hkeys := by
    obtain ⟨hbefore, a, e, hop, hask⟩ := hanswered.of_ask
    rw [hask] at hkeys ⊢
    rw [hkeeps hop]
    exact hr.tell hbefore keys hkeys

theorem Known.forget (hr : r.Known holds) : r.forget.Known holds where
  unsent := hr.unsent
  tell _ _ hkeys := nomatch hkeys

/-- A replica that answers everything has what it is assigned, also if that is not sent. -/
theorem Known.push [Endpoint ρ] (hfaithful : Faithful holds) (hr : r.Known holds)
    {ts : TargetsByJob} {states : SortedMap Fingerprint TargetState} (hlists : ts.Lists states)
    (hanswered : (r.push ts (.ofTargets ts)).2.Answered) :
    holds (r.push ts (.ofTargets ts)).2.endpoint.endpoint = states := by
  unfold Replica.push at hanswered ⊢
  by_cases happlied : r.applied = some (.ofTargets ts)
  · rw [if_pos happlied] at hanswered ⊢
    exact (hr.tell hanswered _ happlied).eq_of_lists hlists
  · rw [if_neg happlied] at hanswered ⊢
    simp only [Endpoint.pushTargets, Request.noted] at hanswered ⊢
    rcases hop : Endpoint.pushTargets ts r.endpoint.endpoint with ⟨_ | _, e⟩
    · rw [hop] at hanswered
      have hfailed := hanswered _ (List.mem_append_right _ List.mem_cons_self)
      cases hfailed
    · exact hfaithful.pushTargets hop hlists

end Replica

/-! ## Reading a shard -/

namespace Shard

variable [Endpoint ρ] {holds : ρ → SortedMap Fingerprint TargetState} {s : Shard (Recorded ρ)}

theorem known_runtime (hfaithful : Faithful holds) (hs : ∀ r ∈ s.group, r.Known holds) :
    ∀ r ∈ s.runtime.2.group, r.Known holds := by
  rw [Shard.runtime, group_after, (ReplicaGroup.read_eq_broadcast ..).1]
  exact ReplicaGroup.forall_broadcast (fun r hr => hr.ask hfaithful.runtime)
    (fun r hr => hr.forget) hs

theorem known_pushConfig (hfaithful : Faithful holds) (raw : ByteArray)
    (hs : ∀ r ∈ s.group, r.Known holds) : ∀ r ∈ (s.pushConfig raw).2.group, r.Known holds := by
  rw [Shard.pushConfig, group_after, (ReplicaGroup.write_eq_broadcast ..).1]
  exact ReplicaGroup.forall_broadcast (fun r hr => hr.ask hfaithful.pushConfig)
    (fun r hr => hr.forget) hs

theorem unsent_scrapeStatus (hs : ∀ r ∈ s.group, r.Unsent) :
    ∀ r ∈ s.scrapeStatus.2.group, r.Unsent := by
  have hasked : ∀ r ∈ (s.group.broadcast Endpoint.scrapeStatus).2, r.Unsent :=
    ReplicaGroup.forall_broadcast (fun r hr => hr.ask _) (fun r hr => hr) hs
  unfold Shard.scrapeStatus
  rcases hbroadcast : s.group.broadcast Endpoint.scrapeStatus with ⟨_ | found, g⟩
  all_goals rw [hbroadcast] at hasked
  · exact hasked
  · intro r' hr'
    obtain ⟨i, hi⟩ := List.mem_iff_getElem?.1 hr'
    obtain ⟨r, hr, hendpoint, -⟩ := ReplicaGroup.observe_all_cases found hi
    have hunsent : r.Unsent := hasked r (List.mem_of_getElem? hr)
    rwa [Replica.Unsent, hendpoint]

theorem known_scrapeStatus (hfaithful : Faithful holds) (hs : ∀ r ∈ s.group, r.Unsent)
    {m : StatusMap} (hstatus : s.scrapeStatus.1 = .ok m) :
    ∀ r ∈ s.scrapeStatus.2.group, r.Known holds := by
  have hunsent := unsent_scrapeStatus hs
  generalize hafter : s.scrapeStatus.2 = s' at hunsent ⊢
  replace hstatus : s.scrapeStatus = (.ok m, s') := Prod.ext hstatus hafter
  refine fun r'' hr'' => ⟨hunsent r'' hr'', fun hanswered keys hkeys => ?_⟩
  unfold Shard.scrapeStatus at hstatus
  rcases hasked : s.group.broadcast Endpoint.scrapeStatus with ⟨_ | found, g⟩
  · rw [hasked] at hstatus
    cases hstatus
  · rw [hasked] at hstatus
    obtain ⟨-, rfl⟩ := Prod.mk.inj hstatus
    obtain ⟨-, hfound, hg⟩ := ReplicaGroup.broadcast_eq_ok hasked
    obtain ⟨i, hi⟩ := List.mem_iff_getElem?.1 hr''
    obtain ⟨r', hr', hendpoint, hremembered⟩ := ReplicaGroup.observe_all_cases found hi
    rw [hg, List.map_map, List.getElem?_map] at hr'
    obtain ⟨r, hr, rfl⟩ := Option.map_eq_some_iff.1 hr'
    rw [Replica.Answered, hendpoint] at hanswered
    obtain ⟨-, reported, e, hop, hask⟩ := Replica.Answered.of_ask hanswered
    obtain ⟨hstates, hkeeps⟩ := hfaithful.scrapeStatus hop
    have hmem : (i, reported) ∈ found := by
      rw [hfound, ReplicaGroup.mem_successes]
      simp only [List.map_map, List.getElem?_map, hr]
      exact congrArg (fun p => some p.1) hask
    have hheld : holds r''.endpoint.endpoint = reported.states := by
      rw [hendpoint, hstates, ← hkeeps]
      exact congrArg (fun p => holds p.2.endpoint.endpoint) hask
    rw [(hremembered keys hkeys).2 reported hmem, hheld]
    exact AssignmentKeys.tell_ofStatuses reported

end Shard

namespace Collection

variable [Endpoint ρ] {holds : ρ → SortedMap Fingerprint TargetState}

theorem known_collectShard (hfaithful : Faithful holds) (expected : Config.Loaded)
    {s : Shard (Recorded ρ)} (hs : ∀ r ∈ s.group, r.Unsent) :
    (∀ r ∈ (collectShard expected s).2.group, r.Unsent) ∧
      ((collectShard expected s).1.changeable = true →
        ∀ r ∈ (collectShard expected s).2.group, r.Known holds) := by
  have hfirst : ∀ m, s.scrapeStatus.1 = .ok m → ∀ r ∈ (firstRead s).2.group, r.Known holds :=
    fun m hm => Shard.known_runtime hfaithful (Shard.known_scrapeStatus hfaithful hs hm)
  have hsending : ∀ m, s.scrapeStatus.1 = .ok m →
      ∀ r ∈ (sending expected s).2.group, r.Known holds :=
    fun m hm => Shard.known_pushConfig hfaithful expected.raw (hfirst m hm)
  have hsecond : ∀ m, s.scrapeStatus.1 = .ok m →
      ∀ r ∈ (secondRead expected s).2.group, r.Known holds :=
    fun m hm => Shard.known_runtime hfaithful (hsending m hm)
  have hends := ends_collectShard expected s
  generalize collectShard expected s = out at hends ⊢
  cases hends with
  | notReady => exact ⟨hs, fun hc => nomatch hc⟩
  | silent => exact ⟨Shard.unsent_scrapeStatus hs, fun hc => nomatch hc⟩
  | unread _ hstatus
  | current _ hstatus =>
      exact ⟨fun r hr => (hfirst _ hstatus r hr).unsent, fun _ => hfirst _ hstatus⟩
  | refused _ hstatus =>
      exact ⟨fun r hr => (hsending _ hstatus r hr).unsent, fun _ => hsending _ hstatus⟩
  | unreadAgain _ hstatus
  | ignored _ hstatus
  | adopted _ hstatus =>
      exact ⟨fun r hr => (hsecond _ hstatus r hr).unsent, fun _ => hsecond _ hstatus⟩

end Collection

/-! ## The whole cycle -/

theorem Fleet.group_rescale_update (f : Fleet ρ) {shards : List (Shard ρ)}
    (hlength : shards.length = f.pool.length) (desired : Int) {i : Nat} {s : Shard ρ}
    (hs : ((f.update shards).rescale desired).shards[i]? = some s) :
    (∃ t, shards[i]? = some t ∧ s.group = t.group) ∨
      f.pool.length ≤ i ∧ ∃ t ∈ f.shards, s.group = t.group := by
  have hgroup : ((f.update shards).rescale desired).shards.map Shard.group =
      (f.update shards).shards.map Shard.group :=
    Fleet.map_rescale (f.update shards) desired fun _ _ => rfl
  have hget := congrArg (·[i]?) hgroup
  simp only [List.getElem?_map, hs, Option.map_some] at hget
  obtain ⟨t, ht, heq⟩ := Option.map_eq_some_iff.1 hget.symm
  simp only [Fleet.update] at ht
  by_cases hi : i < shards.length
  · rw [List.getElem?_append_left hi] at ht
    exact .inl ⟨t, ht, heq.symm⟩
  · rw [List.getElem?_append_right (Nat.le_of_not_lt hi)] at ht
    have hmem := List.mem_of_mem_drop (List.mem_of_getElem? ht)
    exact .inr ⟨hlength ▸ Nat.le_of_not_lt hi, t, hmem, heq.symm⟩

namespace Coordinator

variable [Endpoint ρ] {holds : ρ → SortedMap Fingerprint TargetState}

def collected (c : Coordinator ρ) : Pool := (Collection.collect c.config c.fleet.pool).1

def planned (now : Nat) (c : Coordinator ρ) : Pool :=
  (c.planner.plan Explorer.lookup now c.targets.active c.collected
    (c.explorer.updateTargets c.targets.active)).pool

theorem getElem?_collected (c : Coordinator ρ) (i : Nat) :
    c.collected[i]? = c.fleet.pool[i]?.map fun s => (Collection.collectShard c.config s).1 := by
  simp [collected, Collection.collect, Function.comp_def]

theorem collected_plain (c : Coordinator (Recorded ρ)) : c.plain.collected = c.collected := by
  have hpool : c.plain.fleet.pool = c.fleet.pool.map Shard.plain := by
    simp [Fleet.pool, plain, Fleet.plain]
  rw [collected, hpool, Collection.collect_plain]
  rfl

theorem planned_plain (now : Nat) (c : Coordinator (Recorded ρ)) :
    c.plain.planned now = c.planned now := by
  rw [planned, collected_plain]
  rfl

theorem group_cycle (now : Nat) (c : Coordinator ρ) {i : Nat} {s : Shard ρ}
    (hs : (c.cycle now).2.fleet.shards[i]? = some s) :
    (∃ before planned, c.fleet.pool[i]? = some before ∧ (c.planned now)[i]? = some planned ∧
        s.group = (sendAssignment (Collection.collectShard c.config before).2 planned).group) ∨
      c.collected[i]? = none ∧ ∃ before ∈ c.fleet.shards, s.group = before.group := by
  have hcollected : c.collected.length = c.fleet.pool.length := by
    simp [collected, Collection.collect]
  have hplanned : (c.planned now).length = c.collected.length := Planner.plan_length ..
  unfold cycle at hs
  split at hs
  · rename_i hempty
    refine .inr ⟨?_, s, List.mem_of_getElem? hs, rfl⟩
    rw [List.getElem?_eq_none_iff, hcollected, List.isEmpty_iff.1 hempty]
    exact Nat.zero_le i
  · have hlength : ((Collection.collect c.config c.fleet.pool).2.zipWith sendAssignment
        (c.planned now)).length = c.fleet.pool.length := by
      simp [Collection.collect, hplanned, hcollected]
    rcases Fleet.group_rescale_update c.fleet hlength _ hs with ⟨t, ht, heq⟩ | ⟨hi, hrest⟩
    · obtain ⟨read, planned, hread, hget, rfl⟩ := List.getElem?_zipWith_eq_some.1 ht
      simp only [Collection.collect, List.map_map, List.getElem?_map] at hread
      obtain ⟨before, hbefore, rfl⟩ := Option.map_eq_some_iff.1 hread
      exact .inl ⟨before, planned, hbefore, hget, heq⟩
    · exact .inr ⟨List.getElem?_eq_none_iff.2 (hcollected ▸ hi), hrest⟩

theorem unsent_sendAssignment {s : Shard (Recorded ρ)} {planned : ShardState}
    (hc : planned.changeable = false) (hs : ∀ r ∈ s.group, r.Unsent) :
    ∀ r ∈ (sendAssignment s planned).group, r.Unsent := by
  rw [sendAssignment, hc]
  exact hs

theorem holds_sendAssignment (hfaithful : Faithful holds) {s : Shard (Recorded ρ)}
    {planned : ShardState} (hc : planned.changeable = true)
    (hlists : planned.assignment.Lists planned.scraping.states)
    (hs : ∀ r ∈ s.group, r.Known holds) :
    ∀ r ∈ (sendAssignment s planned).group, r.Answered →
      holds r.endpoint.endpoint = planned.scraping.states := by
  rw [sendAssignment, hc]
  change ∀ r ∈ (s.after (s.group.pushTargets planned.assignment)).2.group, _
  rw [Shard.group_after]
  exact ReplicaGroup.forall_pushTargets (fun r hr => hr.push hfaithful hlists) (fun r hr => hr) hs

/-- After a cycle, a replica of a changeable shard that has answered everything has what was
planned for the shard, and a replica of any other shard has not been sent an assignment. -/
theorem cycle_converges_of_unsent (hfaithful : Faithful holds) (now : Nat)
    (c : Coordinator (Recorded ρ)) (hc : ∀ s ∈ c.fleet.shards, ∀ r ∈ s.group, r.Unsent) {i : Nat}
    {s : Shard (Recorded ρ)} (hs : (c.cycle now).2.fleet.shards[i]? = some s) :
    ∀ r ∈ s.group,
      (∀ info, c.collected[i]? = some info → info.changeable = true → r.Answered →
        ∃ planned, (c.planned now)[i]? = some planned ∧
          holds r.endpoint.endpoint = planned.scraping.states) ∧
      ((∀ info, c.collected[i]? = some info → info.changeable = false) → r.Unsent) := by
  rcases group_cycle now c hs with ⟨before, planned, hbefore, hplanned, hgroup⟩ |
    ⟨hnone, before, hmem, hgroup⟩
  · have hread := Collection.known_collectShard hfaithful c.config
      (hc before (List.mem_of_mem_take (List.mem_of_getElem? hbefore)))
    have hinfo : c.collected[i]? = some (Collection.collectShard c.config before).1 := by
      rw [getElem?_collected, hbefore, Option.map_some]
    have hchangeable :
        planned.changeable = (Collection.collectShard c.config before).1.changeable := by
      have hkept := Planner.changeable_plan Explorer.lookup now c.targets.active c.planner
        c.collected (c.explorer.updateTargets c.targets.active) i
      change (c.planned now)[i]?.map _ = _ at hkept
      rw [hplanned, hinfo] at hkept
      exact Option.some.inj hkept
    rw [hgroup]
    intro r hr
    constructor
    · intro info hget hthis hanswered
      rw [hinfo, Option.some.injEq] at hget
      subst hget
      have hthere : planned.changeable = true := hchangeable.trans hthis
      have hlists : planned.assignment.Lists planned.scraping.states :=
        Planner.lists_of_plan _ _ _ _ _ _ hplanned hthere
      exact ⟨planned, hplanned,
        holds_sendAssignment hfaithful hthere hlists (hread.2 hthis) r hr hanswered⟩
    · intro hunchangeable
      exact unsent_sendAssignment (hchangeable.trans (hunchangeable _ hinfo)) hread.1 r hr
  · rw [hgroup]
    refine fun r hr => ⟨fun info hinfo => ?_, fun _ => hc before hmem r hr⟩
    rw [hnone] at hinfo
    cases hinfo

/-- A cycle brings every replica of a changeable shard that answers all its requests to what was
planned for the shard, whether the assignment is sent or left out, and sends no assignment to
the other shards. -/
theorem cycle_converges (hfaithful : Faithful holds) (now : Nat) (c : Coordinator ρ) :
    (c.recorded.cycle now).2.plain = (c.cycle now).2 ∧
      ∀ (i : Nat) (s : Shard (Recorded ρ)), (c.recorded.cycle now).2.fleet.shards[i]? = some s →
        ∀ r ∈ s.group,
          (∀ info, c.collected[i]? = some info → info.changeable = true → r.Answered →
            ∃ planned, (c.planned now)[i]? = some planned ∧
              holds r.endpoint.endpoint = planned.scraping.states) ∧
          ((∀ info, c.collected[i]? = some info → info.changeable = false) → r.Unsent) := by
  have hunsent : ∀ s ∈ c.recorded.fleet.shards, ∀ r ∈ s.group, r.Unsent := by
    intro s hs r hr contact hcontact
    obtain ⟨s, -, rfl⟩ := List.mem_map.1 hs
    obtain ⟨r, -, rfl⟩ := List.mem_map.1 hr
    cases hcontact
  have hcollected : c.collected = c.recorded.collected := by
    rw [← collected_plain, plain_recorded]
  have hplanned : c.planned now = c.recorded.planned now := by
    rw [← planned_plain, plain_recorded]
  constructor
  · have hcycle := cycle_plain now c.recorded
    rw [plain_recorded] at hcycle
    rw [hcycle]
  · intro i s hs
    rw [hcollected, hplanned]
    exact cycle_converges_of_unsent hfaithful now c.recorded hunsent hs

def lagging : Coordinator InMemory :=
  let target : Target := { hash := 1, job := "node", url := "" }
  let scraping : StatusMap := .ofList [(1, .fresh 10)]
  let group : ReplicaGroup InMemory :=
    [{ endpoint := { address := "a:80", scraping } },
      { endpoint := { address := "b:80" }, applied := some (.ofStatuses scraping) },
      { endpoint := { address := "c:80", schedule := fun _ => .always .timeout } }]
  { config := { config := {}, raw := .empty, hash := "" }
    targets := { active := .ofList [("node", [target])] }
    settings := ∅
    fleet := ⟨[{ id := "s0", group }], 1⟩
    explorer := Explorer.ofQueueSize 1
    retry := .ofSecs 30
    planner := { policy := ⟨100, 4, .ofSecs 60, .ofSecs 15⟩, draws := { ahead := [] } } }

theorem cycle_converges_of_lagging :
    Faithful (fun r : InMemory => r.scraping.states) ∧
      ∃ s r info, (lagging.recorded.cycle 1000).2.fleet.shards[0]? = some s ∧
        s.group[1]? = some r ∧ lagging.collected[0]? = some info ∧ info.changeable = true ∧
        r.Answered ∧ r.endpoint.record.any (·.isPush) = true ∧
        ∃ planned, (lagging.planned 1000)[0]? = some planned ∧
          r.endpoint.endpoint.scraping.states = planned.scraping.states := by
  have hread : lagging.collected[0]?.any (·.changeable) = true := by decide +kernel
  have hrecord : ((lagging.recorded.cycle 1000).2.fleet.shards[0]?.bind (·.group[1]?)).any
      (fun r => r.endpoint.record.all (·.succeeded) && r.endpoint.record.any (·.isPush)) =
        true := by decide +kernel
  obtain ⟨info, hinfo, hchangeable⟩ := (Option.any_eq_true _ _).1 hread
  obtain ⟨r, hfound, hr⟩ := (Option.any_eq_true _ _).1 hrecord
  obtain ⟨s, hs, hget⟩ := Option.bind_eq_some_iff.1 hfound
  obtain ⟨hall, hpushed⟩ := Bool.and_eq_true_iff.1 hr
  have hanswered : r.Answered := List.all_eq_true.1 hall
  have hconverged := (cycle_converges InMemory.faithful 1000 lagging).2 0 s hs r
    (List.mem_of_getElem? hget)
  exact ⟨InMemory.faithful, s, r, info, hs, hget, hinfo, hchangeable, hanswered, hpushed,
    hconverged.1 info hinfo hchangeable hanswered⟩

end Coordinator

end ScrapeFleet
