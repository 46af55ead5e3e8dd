import ScrapeFleet.Collection
import ScrapeFleet.Proofs.Replica.Requests
import ScrapeFleet.Replica.InMemory

/-!
# What collecting decides

A collection reads the statuses and the load of a shard, and if the load shows another
configuration, it sends the expected one and reads the load again.  Each of these calls may
fail on some replicas or on all.  A call that fails on all of them clears the last report, so
that nothing old is shown of a shard that cannot be read.
-/

namespace ScrapeFleet

variable {ρ α : Type}

/-! ## Counting configurations -/

/-- `pushes` counts the configurations that a replica is sent. -/
structure Endpoint.CountsPushes [Endpoint ρ] (pushes : ρ → Nat) : Prop where
  runtime : ∀ e, pushes (Endpoint.runtime e).2 = pushes e
  scrapeStatus : ∀ e, pushes (Endpoint.scrapeStatus e).2 = pushes e
  pushConfig : ∀ raw e, pushes (Endpoint.pushConfig raw e).2 = pushes e + 1
  pushTargets : ∀ ts e, pushes (Endpoint.pushTargets ts e).2 = pushes e

namespace InMemory

theorem calls_begin (m : Method) (r : InMemory) (n : Method) :
    (r.begin m).2.calls n = if n = m then r.calls n + 1 else r.calls n := by
  unfold InMemory.begin
  dsimp only
  split <;> rfl

theorem calls_request {act : InMemory → α × InMemory} (hact : ∀ r, (act r).2.calls = r.calls)
    (m : Method) (r : InMemory) (n : Method) :
    (request m act r).2.calls n = if n = m then r.calls n + 1 else r.calls n := by
  rw [← calls_begin]
  unfold request
  split
  · rename_i hbegin
    rw [hbegin]
  · rename_i hbegin
    rw [hbegin]
    exact congrFun (hact _) n

theorem calls_configure (raw : ByteArray) (r : InMemory) : (r.configure raw).calls = r.calls := by
  unfold configure
  dsimp only
  split <;> rfl

theorem countsPushes : Endpoint.CountsPushes (fun r : InMemory => r.calls .pushConfig) where
  runtime r := calls_request (fun _ => rfl) .runtime r .pushConfig
  scrapeStatus r := calls_request (fun _ => rfl) .scrapeStatus r .pushConfig
  pushConfig raw r := calls_request (calls_configure raw) .pushConfig r .pushConfig
  pushTargets _ r := calls_request (fun _ => rfl) .pushTargets r .pushConfig

end InMemory

namespace Shard

def counts (count : ρ → Nat) (s : Shard ρ) : List Nat := s.group.map (fun r => count r.endpoint)

theorem counts_of_endpoints {count : ρ → Nat} {s s' : Shard ρ} {f : ρ → ρ} {n : Nat}
    (hcount : ∀ e, count (f e) = count e + n)
    (hgroup : s'.group.map (·.endpoint) = s.group.map (fun r => f r.endpoint)) :
    s'.counts count = (s.counts count).map (· + n) := by
  have hcounts := congrArg (List.map count) hgroup
  simpa only [counts, List.map_map, Function.comp_def, hcount] using hcounts

variable [Endpoint ρ] {pushes : ρ → Nat} (hpushes : Endpoint.CountsPushes pushes) (s : Shard ρ)

include hpushes

theorem counts_runtime : s.runtime.2.counts pushes = s.counts pushes := by
  refine (counts_of_endpoints (n := 0) hpushes.runtime ?_).trans (List.map_id _)
  rw [runtime, group_after, (ReplicaGroup.read_eq_broadcast ..).1,
    ReplicaGroup.endpoints_broadcast]

theorem counts_pushConfig (raw : ByteArray) :
    (s.pushConfig raw).2.counts pushes = (s.counts pushes).map (· + 1) := by
  refine counts_of_endpoints (hpushes.pushConfig raw) ?_
  rw [pushConfig, group_after, (ReplicaGroup.write_eq_broadcast ..).1,
    ReplicaGroup.endpoints_broadcast]

theorem counts_scrapeStatus : s.scrapeStatus.2.counts pushes = s.counts pushes := by
  refine (counts_of_endpoints (n := 0) hpushes.scrapeStatus ?_).trans (List.map_id _)
  rw [← ReplicaGroup.endpoints_broadcast]
  unfold scrapeStatus
  split
  · rename_i hasked
    rw [hasked]
  · rename_i hasked
    rw [hasked]
    exact ReplicaGroup.endpoints_observe_all ..

end Shard

namespace Collection

variable [Endpoint ρ] {expected : Config.Loaded} {s s' : Shard ρ} {info : ShardState}

/-! ## The ways through a collection

Each call is made of the shard that the calls before it leave. -/

def firstRead (s : Shard ρ) : Except RequestError Runtime × Shard ρ := s.scrapeStatus.2.runtime

def sending (expected : Config.Loaded) (s : Shard ρ) : Except RequestError Unit × Shard ρ :=
  (firstRead s).2.pushConfig expected.raw

def secondRead (expected : Config.Loaded) (s : Shard ρ) : Except RequestError Runtime × Shard ρ :=
  (sending expected s).2.runtime

/-- How a collection may end: the calls it makes, and what it shows of the shard then. -/
inductive Ends (expected : Config.Loaded) (s : Shard ρ) : ShardState × Shard ρ → Prop
  | notReady : s.ready = false → Ends expected s (unchangeable s {} s.scraping, s)
  | silent {err : RequestError} : s.ready = true → s.scrapeStatus.1 = .error err →
      Ends expected s (unchangeable s.scrapeStatus.2 {} s.scrapeStatus.2.scraping, s.scrapeStatus.2)
  | unread {scraping : StatusMap} {err : RequestError} :
      s.ready = true → s.scrapeStatus.1 = .ok scraping → (firstRead s).1 = .error err →
      Ends expected s (unchangeable (firstRead s).2 {} (firstRead s).2.scraping, (firstRead s).2)
  | current {scraping : StatusMap} {load : Runtime} :
      s.ready = true → s.scrapeStatus.1 = .ok scraping → (firstRead s).1 = .ok load →
      load.configHash = expected.hash →
      Ends expected s (changeable (firstRead s).2 load scraping, (firstRead s).2)
  | refused {scraping : StatusMap} {load : Runtime} {err : RequestError} :
      s.ready = true → s.scrapeStatus.1 = .ok scraping → (firstRead s).1 = .ok load →
      load.configHash ≠ expected.hash → (sending expected s).1 = .error err →
      Ends expected s (unchangeable (sending expected s).2 load scraping, (sending expected s).2)
  | unreadAgain {scraping : StatusMap} {load : Runtime} {err : RequestError} :
      s.ready = true → s.scrapeStatus.1 = .ok scraping → (firstRead s).1 = .ok load →
      load.configHash ≠ expected.hash → (sending expected s).1 = .ok () →
      (secondRead expected s).1 = .error err →
      Ends expected s (unchangeable (secondRead expected s).2 {} (secondRead expected s).2.scraping,
        (secondRead expected s).2)
  | ignored {scraping : StatusMap} {load load' : Runtime} :
      s.ready = true → s.scrapeStatus.1 = .ok scraping → (firstRead s).1 = .ok load →
      load.configHash ≠ expected.hash → (sending expected s).1 = .ok () →
      (secondRead expected s).1 = .ok load' → load'.configHash ≠ expected.hash →
      Ends expected s (unchangeable (secondRead expected s).2 load' scraping,
        (secondRead expected s).2)
  | adopted {scraping : StatusMap} {load load' : Runtime} :
      s.ready = true → s.scrapeStatus.1 = .ok scraping → (firstRead s).1 = .ok load →
      load.configHash ≠ expected.hash → (sending expected s).1 = .ok () →
      (secondRead expected s).1 = .ok load' → load'.configHash = expected.hash →
      Ends expected s (changeable (secondRead expected s).2 load' scraping,
        (secondRead expected s).2)

theorem ends_collectShard (expected : Config.Loaded) (s : Shard ρ) :
    Ends expected s (collectShard expected s) := by
  unfold collectShard
  split
  · rename_i hready
    exact .notReady (by simpa using hready)
  rename_i hready
  replace hready : s.ready = true := by simpa using hready
  split
  · rename_i hstatus
    obtain rfl : s.scrapeStatus.2 = _ := congrArg Prod.snd hstatus
    exact .silent hready (congrArg Prod.fst hstatus)
  rename_i hstatus
  obtain rfl : s.scrapeStatus.2 = _ := congrArg Prod.snd hstatus
  replace hstatus : s.scrapeStatus.1 = _ := congrArg Prod.fst hstatus
  split
  · rename_i hload
    obtain rfl : (firstRead s).2 = _ := congrArg Prod.snd hload
    exact .unread hready hstatus (congrArg Prod.fst hload)
  rename_i hload
  obtain rfl : (firstRead s).2 = _ := congrArg Prod.snd hload
  replace hload : (firstRead s).1 = _ := congrArg Prod.fst hload
  split
  · rename_i hhash
    exact .current hready hstatus hload hhash
  rename_i hhash
  unfold configure
  split
  · rename_i hsent
    obtain rfl : (sending expected s).2 = _ := congrArg Prod.snd hsent
    exact .refused hready hstatus hload hhash (congrArg Prod.fst hsent)
  rename_i hsent
  obtain rfl : (sending expected s).2 = _ := congrArg Prod.snd hsent
  replace hsent : (sending expected s).1 = _ := congrArg Prod.fst hsent
  split
  · rename_i hagain
    obtain rfl : (secondRead expected s).2 = _ := congrArg Prod.snd hagain
    exact .unreadAgain hready hstatus hload hhash hsent (congrArg Prod.fst hagain)
  rename_i hagain
  obtain rfl : (secondRead expected s).2 = _ := congrArg Prod.snd hagain
  replace hagain : (secondRead expected s).1 = _ := congrArg Prod.fst hagain
  split
  · rename_i hadopted
    exact .adopted hready hstatus hload hhash hsent hagain hadopted
  · rename_i hignored
    exact .ignored hready hstatus hload hhash hsent hagain hignored

theorem Ends.keeps {P : Shard ρ → Prop} (hends : Ends expected s (info, s')) (hs : P s)
    (hstatus : ∀ t, P t → P t.scrapeStatus.2) (hruntime : ∀ t, P t → P t.runtime.2)
    (hpush : ∀ raw t, P t → P (t.pushConfig raw).2) : P s' := by
  have hfirst : P (firstRead s).2 := hruntime _ (hstatus _ hs)
  have hsending : P (sending expected s).2 := hpush _ _ hfirst
  have hsecond : P (secondRead expected s).2 := hruntime _ hsending
  cases hends with
  | notReady => exact hs
  | silent => exact hstatus _ hs
  | unread | current => exact hfirst
  | refused => exact hsending
  | unreadAgain | ignored | adopted => exact hsecond

theorem ready_collectShard (expected : Config.Loaded) (s : Shard ρ) :
    (collectShard expected s).2.ready = s.ready :=
  (ends_collectShard expected s).keeps (P := fun t => t.ready = s.ready) rfl
    (fun t ht => t.ready_scrapeStatus.trans ht) (fun _ ht => (Shard.ready_after _ _).trans ht)
    (fun _ _ ht => (Shard.ready_after _ _).trans ht)

/-! ## What is decided -/

def Reads (s : Shard ρ) (load : Runtime) : Prop :=
  s.ready = true ∧ s.scrapeStatus.1.isOk = true ∧ (firstRead s).1 = .ok load

def Outdated (expected : Config.Loaded) (s : Shard ρ) : Prop :=
  ∃ load, Reads s load ∧ load.configHash ≠ expected.hash

/-- The reads show the expected configuration, at once or after a replica has accepted it. -/
def Confirmed (expected : Config.Loaded) (s : Shard ρ) : Prop :=
  ∃ load, Reads s load ∧
    (load.configHash = expected.hash ∨
      (firstRead s).2.group.SomeAnswers (Endpoint.pushConfig expected.raw) ∧
        ∃ load', (secondRead expected s).1 = .ok load' ∧ load'.configHash = expected.hash)

inductive Unanswered (expected : Config.Loaded) (s : Shard ρ) : Prop
  | status : ¬s.group.SomeAnswers Endpoint.scrapeStatus → Unanswered expected s
  | load : s.scrapeStatus.1.isOk = true →
      ¬s.scrapeStatus.2.group.SomeAnswers Endpoint.runtime → Unanswered expected s
  | again : Outdated expected s →
      (firstRead s).2.group.SomeAnswers (Endpoint.pushConfig expected.raw) →
      ¬(sending expected s).2.group.SomeAnswers Endpoint.runtime → Unanswered expected s

/-- What the collection shows of a shard `s` is right, and so is what it does to it. -/
structure Decides (expected : Config.Loaded) (s : Shard ρ) (info : ShardState) (s' : Shard ρ) :
    Prop where
  changeable_iff : info.changeable = true ↔ Confirmed expected s
  /-- The expected configuration is sent to an outdated shard, once, and to no other. -/
  sends : ∀ pushes : ρ → Nat, Endpoint.CountsPushes pushes →
    (Outdated expected s → s'.counts pushes = (s.counts pushes).map (· + 1)) ∧
      (¬Outdated expected s → s'.counts pushes = s.counts pushes)
  /-- What is shown of a shard that may be changed has been read in this collection. -/
  shows : info.changeable = true →
    s.scrapeStatus.1 = .ok info.scraping ∧ info.runtime.configHash = expected.hash ∧
      (Reads s info.runtime ∨ Outdated expected s ∧ (secondRead expected s).1 = .ok info.runtime)
  /-- Nothing is shown of a shard that cannot be read, whatever it was last seen to scrape. -/
  hides : s.ready = true → Unanswered expected s →
    info = { id := s.id, changeable := false, runtime := {}, scraping := ∅ }

section

variable {scraping : StatusMap} {load : Runtime}

theorem reads_of_ok (hready : s.ready = true) (hstatus : s.scrapeStatus.1 = .ok scraping)
    (hload : (firstRead s).1 = .ok load) : Reads s load :=
  ⟨hready, by rw [hstatus]; rfl, hload⟩

theorem outdated_of_ne (hready : s.ready = true) (hstatus : s.scrapeStatus.1 = .ok scraping)
    (hload : (firstRead s).1 = .ok load) (hhash : load.configHash ≠ expected.hash) :
    Outdated expected s :=
  ⟨load, reads_of_ok hready hstatus hload, hhash⟩

theorem not_outdated_of_eq (hload : (firstRead s).1 = .ok load)
    (hhash : load.configHash = expected.hash) : ¬Outdated expected s := by
  rintro ⟨load', ⟨-, -, hload'⟩, hne⟩
  obtain rfl := Except.ok.inj (hload.symm.trans hload')
  exact hne hhash

end

theorem Ends.changeable_iff (hends : Ends expected s (info, s')) :
    info.changeable = true ↔ Confirmed expected s := by
  have hsending := (firstRead s).2.isOk_pushConfig_iff expected.raw
  cases hends with
  | notReady hready => simp [unchangeable, Confirmed, Reads, hready]
  | silent hready hstatus =>
      simp [unchangeable, Confirmed, Reads, hstatus, Except.isOk, Except.toBool]
  | unread hready hstatus hload => simp [unchangeable, Confirmed, Reads, hload]
  | current hready hstatus hload hhash =>
      exact iff_of_true rfl ⟨_, reads_of_ok hready hstatus hload, .inl hhash⟩
  | refused hready hstatus hload hhash hsent =>
      refine iff_of_false Bool.false_ne_true ?_
      rintro ⟨load, hreads, hsame | ⟨haccepted, -⟩⟩
      · exact not_outdated_of_eq hreads.2.2 hsame (outdated_of_ne hready hstatus hload hhash)
      · rw [← hsending, ← sending, hsent] at haccepted
        cases haccepted
  | unreadAgain hready hstatus hload hhash hsent hagain =>
      refine iff_of_false Bool.false_ne_true ?_
      rintro ⟨load, hreads, hsame | ⟨-, load', hread, -⟩⟩
      · exact not_outdated_of_eq hreads.2.2 hsame (outdated_of_ne hready hstatus hload hhash)
      · cases hagain.symm.trans hread
  | ignored hready hstatus hload hhash hsent hagain hignored =>
      refine iff_of_false Bool.false_ne_true ?_
      rintro ⟨load, hreads, hsame | ⟨-, load', hread, hadopted⟩⟩
      · exact not_outdated_of_eq hreads.2.2 hsame (outdated_of_ne hready hstatus hload hhash)
      · obtain rfl := Except.ok.inj (hagain.symm.trans hread)
        exact hignored hadopted
  | adopted hready hstatus hload hhash hsent hagain hadopted =>
      refine iff_of_true rfl ⟨_, reads_of_ok hready hstatus hload, .inr ⟨?_, _, hagain, hadopted⟩⟩
      rw [← hsending, ← sending, hsent]
      rfl

theorem Ends.sends {pushes : ρ → Nat} (hends : Ends expected s (info, s'))
    (hpushes : Endpoint.CountsPushes pushes) :
    (Outdated expected s → s'.counts pushes = (s.counts pushes).map (· + 1)) ∧
      (¬Outdated expected s → s'.counts pushes = s.counts pushes) := by
  have hstatuses : s.scrapeStatus.2.counts pushes = s.counts pushes :=
    Shard.counts_scrapeStatus hpushes s
  have hfirst : (firstRead s).2.counts pushes = s.counts pushes :=
    (Shard.counts_runtime hpushes _).trans hstatuses
  have hsending : (sending expected s).2.counts pushes = (s.counts pushes).map (· + 1) := by
    rw [sending, Shard.counts_pushConfig hpushes, hfirst]
  have hsecond : (secondRead expected s).2.counts pushes = (s.counts pushes).map (· + 1) :=
    (Shard.counts_runtime hpushes _).trans hsending
  cases hends with
  | notReady hready =>
      refine ⟨fun ⟨_, ⟨hread, _⟩, _⟩ => ?_, fun _ => rfl⟩
      cases hready.symm.trans hread
  | silent hready hstatus =>
      refine ⟨fun ⟨_, ⟨_, hread, _⟩, _⟩ => ?_, fun _ => hstatuses⟩
      rw [hstatus] at hread
      cases hread
  | unread hready hstatus hload =>
      refine ⟨fun ⟨_, ⟨_, _, hread⟩, _⟩ => ?_, fun _ => hfirst⟩
      cases hload.symm.trans hread
  | current hready hstatus hload hhash =>
      exact ⟨fun h => absurd h (not_outdated_of_eq hload hhash), fun _ => hfirst⟩
  | refused hready hstatus hload hhash =>
      exact ⟨fun _ => hsending, fun h => absurd (outdated_of_ne hready hstatus hload hhash) h⟩
  | unreadAgain hready hstatus hload hhash
  | ignored hready hstatus hload hhash
  | adopted hready hstatus hload hhash =>
      exact ⟨fun _ => hsecond, fun h => absurd (outdated_of_ne hready hstatus hload hhash) h⟩

theorem Ends.shows (hends : Ends expected s (info, s')) (hchangeable : info.changeable = true) :
    s.scrapeStatus.1 = .ok info.scraping ∧ info.runtime.configHash = expected.hash ∧
      (Reads s info.runtime ∨
        Outdated expected s ∧ (secondRead expected s).1 = .ok info.runtime) := by
  cases hends with
  | current hready hstatus hload hhash =>
      exact ⟨hstatus, hhash, .inl (reads_of_ok hready hstatus hload)⟩
  | adopted hready hstatus hload hhash hsent hagain hadopted =>
      exact ⟨hstatus, hadopted, .inr ⟨outdated_of_ne hready hstatus hload hhash, hagain⟩⟩
  | _ => cases hchangeable

theorem not_unanswered {scraping : StatusMap} {load : Runtime}
    (hstatus : s.scrapeStatus.1 = .ok scraping) (hload : (firstRead s).1 = .ok load)
    (hagain : Outdated expected s → (sending expected s).1.isOk = true →
      (secondRead expected s).1.isOk = true) : ¬Unanswered expected s := by
  rintro (hsilent | ⟨-, hunread⟩ | ⟨houtdated, haccepted, hunread⟩)
  · refine hsilent (s.isOk_scrapeStatus_iff.1 ?_)
    rw [hstatus]
    rfl
  · refine hunread ((Shard.isOk_runtime_iff _).1 ?_)
    rw [← firstRead, hload]
    rfl
  · refine hunread ((Shard.isOk_runtime_iff _).1 (hagain houtdated ?_))
    exact (Shard.isOk_pushConfig_iff _ _).2 haccepted

theorem Ends.hides (hends : Ends expected s (info, s')) (hready : s.ready = true)
    (hunanswered : Unanswered expected s) :
    info = { id := s.id, changeable := false, runtime := {}, scraping := ∅ } := by
  have hid : s'.id = s.id :=
    hends.keeps (P := fun t => t.id = s.id) rfl (fun t ht => t.id_scrapeStatus.trans ht)
      (fun _ ht => (Shard.id_after _ _).trans ht) (fun _ _ ht => (Shard.id_after _ _).trans ht)
  cases hends with
  | notReady hnot => cases hready.symm.trans hnot
  | silent _ hstatus => rw [unchangeable, s.scraping_scrapeStatus hstatus, hid]
  | unread _ hstatus hload =>
      have hempty : (firstRead s).2.scraping = ∅ := Shard.scraping_after _ _ hload
      rw [unchangeable, hid, hempty]
  | current _ hstatus hload hhash =>
      refine absurd hunanswered (not_unanswered hstatus hload fun houtdated => ?_)
      exact absurd houtdated (not_outdated_of_eq hload hhash)
  | refused _ hstatus hload hhash hsent =>
      refine absurd hunanswered (not_unanswered hstatus hload fun _ haccepted => ?_)
      rw [hsent] at haccepted
      cases haccepted
  | unreadAgain _ hstatus hload hhash hsent hagain =>
      have hempty : (secondRead expected s).2.scraping = ∅ := Shard.scraping_after _ _ hagain
      rw [unchangeable, hid, hempty]
  | ignored _ hstatus hload hhash hsent hagain
  | adopted _ hstatus hload hhash hsent hagain =>
      refine absurd hunanswered (not_unanswered hstatus hload fun _ _ => ?_)
      rw [hagain]
      rfl

/-- Collecting decides rightly about every shard. -/
theorem collect_decides (expected : Config.Loaded) {shards : List (Shard ρ)} {i : Nat}
    (hs : shards[i]? = some s) :
    ∃ info s', (collect expected shards).1[i]? = some info ∧
      (collect expected shards).2[i]? = some s' ∧ Decides expected s info s' := by
  have hends := ends_collectShard expected s
  refine ⟨(collectShard expected s).1, (collectShard expected s).2, ?_, ?_,
    ⟨hends.changeable_iff, fun _ hpushes => hends.sends hpushes, hends.shows, hends.hides⟩⟩
  · simp [collect, hs]
  · simp [collect, hs]

def halfRefusing : Shard InMemory :=
  { id := "s0"
    group := .ofEndpoints
      [{ address := "a"
         schedule := fun m => .next (if m = .pushConfig then [some .timeout] else []) },
        { address := "b", runtime := { headSeries := 5 }, scraping := .ofList [(1, .fresh 5)] }] }

def mute : Shard InMemory :=
  { id := "s1"
    group := .ofEndpoints [{ address := "c", schedule := fun _ => .always .timeout }]
    cached := some (.ofList [(2, .fresh 7)]) }

theorem collect_decides_halfRefusing :
    let expected : Config.Loaded := { config := {}, raw := .empty, hash := Sha256.hexDigest .empty }
    let shards := [halfRefusing, mute]
    let pushes := fun r : InMemory => r.calls .pushConfig
    (∃ info s', (collect expected shards).1[0]? = some info ∧
        (collect expected shards).2[0]? = some s' ∧ info.changeable = true ∧
        info.scraping = .ofList [(1, .fresh 5)] ∧ s'.counts pushes = [1, 1]) ∧
      (collect expected shards).1[1]? =
        some { id := "s1", changeable := false, runtime := {}, scraping := ∅ } := by
  intro expected shards pushes
  have hfirst : shards[0]? = some halfRefusing := rfl
  have hsecond : shards[1]? = some mute := rfl
  obtain ⟨info, s', hinfo, hs', hdecides⟩ := collect_decides expected hfirst
  have hreads : Reads halfRefusing { headSeries := 5 } := ⟨rfl, by rfl, by rfl⟩
  have hconfirmed : Confirmed expected halfRefusing := by
    refine ⟨_, hreads, .inr ⟨?_, { headSeries := 5, configHash := expected.hash }, ?_, rfl⟩⟩
    · exact ⟨_, .tail _ (.head _), (), by rfl⟩
    · rfl
  have houtdated : Outdated expected halfRefusing := ⟨_, hreads, by decide +kernel⟩
  have hchangeable := hdecides.changeable_iff.2 hconfirmed
  have hscraping : info.scraping = .ofList [(1, .fresh 5)] :=
    Except.ok.inj ((hdecides.shows hchangeable).1.symm.trans (by rfl))
  have hpushes := (hdecides.sends pushes InMemory.countsPushes).1 houtdated
  obtain ⟨_, _, hmute, -, hdecides'⟩ := collect_decides expected hsecond
  have hsilent : ¬mute.group.SomeAnswers Endpoint.scrapeStatus := by
    rw [← mute.isOk_scrapeStatus_iff]
    decide +kernel
  refine ⟨⟨info, s', hinfo, hs', hchangeable, hscraping, hpushes⟩, ?_⟩
  rw [hmute, hdecides'.hides rfl (.status hsilent)]
  rfl

end Collection

end ScrapeFleet
