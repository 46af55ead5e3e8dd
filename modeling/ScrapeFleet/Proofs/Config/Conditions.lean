import ScrapeFleet.Proofs.Config.Validity

/-!
# When a configuration is valid

Validation walks through the settings, the shards and the jobs, and stops at the first
fault.  What it accepts is said here field by field, without that order.  Whoever reads a
field of a valid configuration later can rely on it: no step that could fail does.
-/

namespace ScrapeFleet.Config

/-! ## Conditions -/

def IsDuration (text : String) : Prop := ∃ d, Duration.parse? text = some d

structure Coordinator.WellFormed (c : Coordinator) : Prop where
  maxSeries : 0 < c.maxSeriesPerShard
  maxShards : 1 ≤ c.maxShardCount
  maxIdle : IsDuration c.maxIdle
  interval : ∃ d, Duration.parse? c.reconcileInterval = some d ∧ d ≠ .zero

structure Explore.WellFormed (e : Explore) : Prop where
  concurrency : 0 < e.concurrency
  queueSize : 0 < e.queueSize
  retry : IsDuration e.retryInterval
  timeout : IsDuration e.scrapeTimeout

structure Job.WellFormed (j : Job) : Prop where
  timeout : ∀ t ∈ j.scrapeTimeout, IsDuration t
  relabel : ∀ r ∈ j.relabel, ∃ f, r.compile? = some f
  metricRelabel : ∀ r ∈ j.metricRelabel, ∃ f, r.compile? = some f

structure WellFormed (c : Config) : Prop where
  coordinator : c.coordinator.WellFormed
  explore : c.explore.WellFormed
  shardIds : (c.shards.map (·.id)).Nodup
  replicas : ∀ s ∈ c.shards, s.replicas ≠ []
  jobNames : (c.jobs.map (·.name)).Nodup
  jobs : ∀ j ∈ c.jobs, j.WellFormed

/-! ## Settings -/

theorem duration_eq_ok_iff {field text : String} {d : Duration} :
    duration field text = .ok d ↔ Duration.parse? text = some d := by
  unfold duration
  cases Duration.parse? text <;> simp

theorem isDuration_iff (field : String) {text : String} :
    (∃ d, duration field text = .ok d) ↔ IsDuration text :=
  exists_congr fun _ => duration_eq_ok_iff

theorem isZero_iff {d : Duration} : d.isZero = true ↔ d = .zero := by
  cases d
  simp [Duration.isZero, Duration.zero]

theorem bind_eq_ok_iff_exists {α β : Type} {first : Except Fault α} {next : α → Except Fault β}
    {b : β} : first >>= next = .ok b ↔ ∃ a, first = .ok a ∧ next a = .ok b := by
  cases first <;> simp [bind, Except.bind]

theorem Coordinator.exists_policy_iff (c : Coordinator) :
    (∃ p, c.policy = .ok p) ↔ c.WellFormed := by
  unfold policy
  by_cases hseries : c.maxSeriesPerShard ≤ 0
  · rw [if_pos hseries]
    exact iff_of_false (fun ⟨_, h⟩ => nomatch h) fun h => absurd h.maxSeries (by omega)
  by_cases hshards : c.maxShardCount < 1
  · rw [if_neg hseries, if_pos hshards]
    exact iff_of_false (fun ⟨_, h⟩ => nomatch h) fun h => absurd h.maxShards (by omega)
  rw [if_neg hseries, if_neg hshards]
  simp only [bind_eq_ok_iff_exists, duration_eq_ok_iff]
  constructor
  · rintro ⟨p, idle, hidle, interval, hinterval, h⟩
    by_cases hzero : interval.isZero = true
    · rw [if_pos hzero] at h
      cases h
    · exact ⟨by omega, by omega, ⟨idle, hidle⟩,
        ⟨interval, hinterval, fun heq => hzero (isZero_iff.2 heq)⟩⟩
  · rintro ⟨-, -, ⟨idle, hidle⟩, interval, hinterval, hne⟩
    exact ⟨_, idle, hidle, interval, hinterval, if_neg fun hzero => hne (isZero_iff.1 hzero)⟩

/-! ## Shards -/

theorem checkShards_eq_ok_iff (seen : List String) (shards : List Shard) :
    checkShards seen shards = .ok () ↔
      (shards.map (·.id)).Nodup ∧ (∀ s ∈ shards, s.id ∉ seen) ∧ ∀ s ∈ shards, s.replicas ≠ [] := by
  induction shards generalizing seen with
  | nil => simp [checkShards]
  | cons s rest ih =>
      unfold checkShards
      by_cases hseen : s.id ∈ seen
      · simp [hseen]
      by_cases hnone : s.replicas = []
      · simp [hseen, hnone]
      rw [if_neg (by simpa using hseen), if_neg (by simpa using hnone), ih]
      simp only [List.map_cons, List.nodup_cons, List.mem_map, List.mem_cons, forall_eq_or_imp,
        not_or, not_exists, not_and]
      constructor
      · rintro ⟨hdistinct, hnew, hreplicas⟩
        exact ⟨⟨fun s' hs' => (hnew s' hs').1, hdistinct⟩, ⟨hseen, fun s' hs' => (hnew s' hs').2⟩,
          hnone, hreplicas⟩
      · rintro ⟨⟨hid, hdistinct⟩, ⟨-, hnew⟩, -, hreplicas⟩
        exact ⟨hdistinct, fun s' hs' => ⟨hid s' hs', hnew s' hs'⟩, hreplicas⟩

/-! ## Jobs -/

theorem exists_compileAll_iff (rules : List Relabel.Rule) :
    (∃ filters, Relabel.compileAll rules = .ok filters) ↔
      ∀ r ∈ rules, ∃ f, r.compile? = some f := by
  induction rules with
  | nil => simp [Relabel.compileAll]
  | cons r rest ih =>
      rw [List.forall_mem_cons, ← ih, Relabel.compileAll]
      cases r.compile? with
      | none => simp
      | some f => cases Relabel.compileAll rest <;> simp [Except.map]

theorem compiles_iff (rules : List Relabel.Rule) :
    Compiles rules ↔ ∀ r ∈ rules, ∃ f, r.compile? = some f := by
  rw [← exists_compileAll_iff]
  unfold Compiles compileRules
  cases Relabel.compileAll rules <;> simp

theorem Job.check_eq_ok_iff (j : Job) : j.check = .ok () ↔ j.WellFormed := by
  have hrules := @compileRules_eq_ok_iff j.relabel j.metricRelabel
  rw [compiles_iff, compiles_iff] at hrules
  unfold check
  cases htimeout : j.scrapeTimeout with
  | none =>
      refine hrules.trans ⟨fun h => ⟨?_, h.1, h.2⟩, fun h => ⟨h.relabel, h.metricRelabel⟩⟩
      simp [htimeout]
  | some t =>
      rw [bind_eq_ok_iff, discard_eq_ok_iff, isDuration_iff, hrules]
      refine ⟨fun h => ⟨?_, h.2.1, h.2.2⟩,
        fun h => ⟨h.timeout t htimeout, h.relabel, h.metricRelabel⟩⟩
      simpa [htimeout] using h.1

/-! ## The whole configuration -/

theorem validate_iff_wellFormed (c : Config) : c.validate = .ok () ↔ c.WellFormed := by
  rw [validate_eq_ok_iff, c.coordinator.exists_policy_iff, Explore.retry, Explore.timeout,
    isDuration_iff, isDuration_iff, checkShards_eq_ok_iff, checkJobs_eq_ok_iff]
  simp only [Job.check_eq_ok_iff, List.not_mem_nil, not_false_eq_true, implies_true, true_and]
  constructor
  · rintro ⟨hcoordinator, ⟨hconcurrency, hqueue⟩, hretry, htimeout, ⟨hids, hreplicas⟩, hnames,
      hjobs⟩
    exact ⟨hcoordinator, ⟨by omega, by omega, hretry, htimeout⟩, hids, hreplicas, hnames, hjobs⟩
  · intro h
    have hconcurrency := h.explore.concurrency
    have hqueue := h.explore.queueSize
    exact ⟨h.coordinator, ⟨by omega, by omega⟩, h.explore.retry, h.explore.timeout,
      ⟨h.shardIds, h.replicas⟩, h.jobNames, h.jobs⟩

/-! ## Later steps -/

/-- What is written for the timeout of a job of that name: by the first such job if it writes
any, else for all jobs. -/
def timeoutText (c : Config) (name : String) : String :=
  ((c.job? name).bind (·.scrapeTimeout)).getD c.explore.scrapeTimeout

theorem WellFormed.parse?_timeoutText {c : Config} (h : c.WellFormed) (name : String) :
    Duration.parse? (c.timeoutText name) = some (c.jobTimeout name) := by
  obtain ⟨usual, husual⟩ := h.explore.timeout
  unfold timeoutText jobTimeout
  cases hown : (c.job? name).bind (·.scrapeTimeout) with
  | none => simp [husual]
  | some t =>
      obtain ⟨j, hj, ht⟩ := Option.bind_eq_some_iff.1 hown
      obtain ⟨d, hd⟩ := (h.jobs j (List.mem_of_find?_eq_some hj)).timeout t ht
      simp [hd]

/-- Validation accepts a configuration just if it is well-formed.  Then the settings of planning
and of exploring can be read, the rules of all jobs can be set up, and the timeout of a job is one
that the configuration states. -/
theorem validate_exact (c : Config) :
    (c.validate = .ok () ↔ c.WellFormed) ∧
      (c.validate = .ok () →
        (∃ p, c.coordinator.policy = .ok p) ∧ (∃ d, c.explore.retry = .ok d) ∧
          (∃ d, c.explore.timeout = .ok d) ∧ (∃ m, Scrape.settings c = .ok m) ∧
          ∀ name, Duration.parse? (c.timeoutText name) = some (c.jobTimeout name)) := by
  refine ⟨c.validate_iff_wellFormed, fun hvalid => ?_⟩
  have h := c.validate_iff_wellFormed.1 hvalid
  obtain ⟨m, hm, -⟩ := Scrape.settings_eq_ok hvalid
  exact ⟨c.coordinator.exists_policy_iff.2 h.coordinator, (isDuration_iff _).2 h.explore.retry,
    (isDuration_iff _).2 h.explore.timeout, ⟨m, hm⟩, h.parse?_timeoutText⟩

def twoJobs : Config where
  explore := { scrapeTimeout := "20s" }
  shards := [⟨"s0", ["a:1", "b:1"]⟩, ⟨"s1", ["c:1"]⟩]
  jobs :=
    [{ name := "node", scrapeTimeout := some " 250ms ",
       relabel := [{ sourceLabels := ["env"], regex := "prod|dev" }],
       metricRelabel := [{ sourceLabels := ["__name__"], regex := "(go|up)_[a-z]+", action := .drop }] },
     { name := "app" }]

theorem validate_exact_twoJobs : twoJobs.validate = .ok () ∧ twoJobs.WellFormed ∧
    (∃ m, Scrape.settings twoJobs = .ok m) ∧
      some (twoJobs.jobTimeout "node") = Duration.parse? "250ms" ∧
      some (twoJobs.jobTimeout "app") = Duration.parse? "20s" := by
  have hvalid : twoJobs.validate = .ok () := by decide +kernel
  obtain ⟨hiff, hsafe⟩ := validate_exact twoJobs
  obtain ⟨-, -, -, hsettings, htimeout⟩ := hsafe hvalid
  exact ⟨hvalid, hiff.1 hvalid, hsettings, by rw [← htimeout]; decide +kernel,
    by rw [← htimeout]; decide +kernel⟩

end ScrapeFleet.Config
