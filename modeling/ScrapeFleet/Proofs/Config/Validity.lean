import Mathlib.Data.List.Nodup
import ScrapeFleet.Config.Loaded
import ScrapeFleet.Explore.Scrape

/-!
# What validity promises

Validation goes through the jobs of a configuration in order.  A configuration that
passes it has jobs of different names, and the rules of every job compile, so that
the settings for sampling can be made of it and are found under each job's name.
-/

namespace ScrapeFleet

namespace Config

variable {c : Config}

/-! ## Jobs -/

def HasJob (c : Config) (name : String) : Prop := ∃ j ∈ c.jobs, j.name = name

def Compiles (rules : List Relabel.Rule) : Prop := ∃ filters, compileRules rules = .ok filters

theorem isSome_job?_iff (c : Config) (name : String) :
    (c.job? name).isSome = true ↔ c.HasJob name := by
  simp [job?, HasJob]

theorem discard_eq_ok_iff {α : Type} {r : Except Fault α} :
    discard r = .ok () ↔ ∃ a, r = .ok a := by
  cases r with
  | error f => constructor <;> rintro ⟨⟩; contradiction
  | ok a => exact ⟨fun _ => ⟨a, rfl⟩, fun _ => rfl⟩

theorem bind_eq_ok_iff {α : Type} {first : Except Fault Unit} {next : Except Fault α} {a : α} :
    (first >>= fun _ => next) = .ok a ↔ first = .ok () ∧ next = .ok a := by
  cases first with
  | error f => constructor <;> rintro ⟨⟩; contradiction
  | ok _ => exact ⟨fun h => ⟨rfl, h⟩, fun h => h.2⟩

theorem compileRules_eq_ok_iff {relabel metricRelabel : List Relabel.Rule} :
    (discard (compileRules relabel) >>= fun _ => discard (compileRules metricRelabel)) = .ok () ↔
      Compiles relabel ∧ Compiles metricRelabel :=
  bind_eq_ok_iff.trans (and_congr discard_eq_ok_iff discard_eq_ok_iff)

theorem Job.compiles_of_check {j : Job} (hj : j.check = .ok ()) :
    Compiles j.relabel ∧ Compiles j.metricRelabel := by
  unfold check at hj
  split at hj
  · exact compileRules_eq_ok_iff.1 (bind_eq_ok_iff.1 hj).2
  · exact compileRules_eq_ok_iff.1 hj

theorem checkJobs_eq_ok_iff (seen : List String) (jobs : List Job) :
    checkJobs seen jobs = .ok () ↔
      (jobs.map (·.name)).Nodup ∧ (∀ j ∈ jobs, j.name ∉ seen) ∧ ∀ j ∈ jobs, j.check = .ok () := by
  induction jobs generalizing seen with
  | nil => simp [checkJobs]
  | cons j rest ih =>
      unfold checkJobs
      by_cases hseen : j.name ∈ seen
      · simp [hseen]
      · rw [if_neg (by simpa using hseen), bind_eq_ok_iff, ih]
        simp only [List.map_cons, List.nodup_cons, List.mem_map, List.mem_cons, forall_eq_or_imp,
          not_or, not_exists, not_and]
        constructor
        · rintro ⟨hcheck, hdistinct, hnew, hrest⟩
          exact ⟨⟨fun j' hj' => (hnew j' hj').1, hdistinct⟩, ⟨hseen, fun j' hj' => (hnew j' hj').2⟩,
            hcheck, hrest⟩
        · rintro ⟨⟨hname, hdistinct⟩, ⟨-, hnew⟩, hcheck, hrest⟩
          exact ⟨hcheck, hdistinct, fun j' hj' => ⟨hname j' hj', hnew j' hj'⟩, hrest⟩

theorem validate_eq_ok_iff : c.validate = .ok () ↔
    (∃ p, c.coordinator.policy = .ok p) ∧
      (c.explore.concurrency ≠ 0 ∧ c.explore.queueSize ≠ 0) ∧
      (∃ d, c.explore.retry = .ok d) ∧ (∃ d, c.explore.timeout = .ok d) ∧
      checkShards [] c.shards = .ok () ∧ checkJobs [] c.jobs = .ok () := by
  unfold validate
  rw [bind_eq_ok_iff, discard_eq_ok_iff]
  refine and_congr_right fun _ => ?_
  by_cases hzero : c.explore.concurrency = 0 ∨ c.explore.queueSize = 0
  · rw [if_pos (by simpa using hzero)]
    exact iff_of_false (fun h => nomatch h) fun h => hzero.elim h.1.1 h.1.2
  · rw [if_neg (by simpa using hzero), bind_eq_ok_iff, bind_eq_ok_iff, bind_eq_ok_iff,
      discard_eq_ok_iff, discard_eq_ok_iff]
    rw [not_or] at hzero
    simp [hzero]

theorem checkJobs_of_validate (hvalid : c.validate = .ok ()) : checkJobs [] c.jobs = .ok () := by
  obtain ⟨-, -, -, -, -, hjobs⟩ := validate_eq_ok_iff.1 hvalid
  exact hjobs

theorem distinct_of_validate (hvalid : c.validate = .ok ()) : (c.jobs.map (·.name)).Nodup :=
  ((checkJobs_eq_ok_iff [] c.jobs).1 (checkJobs_of_validate hvalid)).1

theorem check_of_validate (hvalid : c.validate = .ok ()) {j : Job} (hj : j ∈ c.jobs) :
    j.check = .ok () :=
  ((checkJobs_eq_ok_iff [] c.jobs).1 (checkJobs_of_validate hvalid)).2.2 j hj

/-! ## Files -/

/-- The bytes of the configuration are those of the file, and everything else is read from
them. -/
structure Loaded.OfFile (l : Loaded) (file : Option ByteArray) : Prop where
  raw : file = some l.raw
  hash : l.hash = Sha256.hexDigest l.raw
  config : ∃ cs, Utf8.decode l.raw = .ok cs ∧ parse? cs = some l.config
  valid : l.config.validate = .ok ()

theorem loadFile_eq_ok {file : Option ByteArray} {l : Loaded} (hl : loadFile file = .ok l) :
    l.OfFile file := by
  cases file with
  | none => cases hl
  | some raw =>
      unfold loadFile load at hl
      simp only at hl
      split at hl
      · cases hl
      rename_i cs hcs
      split at hl
      · cases hl
      rename_i config hconfig
      split at hl
      · cases hl
      rename_i hvalid
      obtain rfl := Except.ok.inj hl
      exact ⟨rfl, rfl, ⟨cs, hcs, hconfig⟩, hvalid⟩

/-! ## Settings for sampling -/

def settingsOf? (c : Config) (j : Job) : Option ScrapeSettings :=
  (compileRules j.metricRelabel).toOption.map fun rules =>
    { timeout := c.jobTimeout j.name, rules }

end Config

namespace Scrape

open Config

variable {c : Config}

theorem settings_eq_ok (hvalid : c.validate = .ok ()) :
    ∃ m, settings c = .ok m ∧ ∀ name, m.get? name = (c.job? name).bind c.settingsOf? := by
  have hcompiles : ∀ j ∈ c.jobs, Compiles j.metricRelabel := fun j hj =>
    (Job.compiles_of_check (check_of_validate hvalid hj)).2
  have hdistinct := distinct_of_validate hvalid
  unfold settings job?
  -- The entries of the jobs that are still to come replace those that are there.
  suffices hfold : ∀ (jobs : List Job) (acc : SortedMap String ScrapeSettings),
      (∀ j ∈ jobs, Compiles j.metricRelabel) → (jobs.map (·.name)).Nodup →
      ∃ m, jobs.foldlM (fun m j => (compileRules j.metricRelabel).map (fun rules =>
          m.insert j.name { timeout := c.jobTimeout j.name, rules })) acc = .ok m ∧
        ∀ name, m.get? name =
          ((jobs.find? (·.name = name)).bind c.settingsOf?).or (acc.get? name) by
    obtain ⟨m, hm, hget⟩ := hfold c.jobs ∅ hcompiles hdistinct
    refine ⟨m, hm, fun name => ?_⟩
    rw [hget, SortedMap.get?_empty, Option.or_none]
  intro jobs
  induction jobs with
  | nil => exact fun acc _ _ => ⟨acc, rfl, fun _ => rfl⟩
  | cons j rest ih =>
      intro acc hcompiles hdistinct
      obtain ⟨rules, hrules⟩ := hcompiles j List.mem_cons_self
      rw [List.map_cons, List.nodup_cons] at hdistinct
      obtain ⟨m, hm, hget⟩ := ih (acc.insert j.name { timeout := c.jobTimeout j.name, rules })
        (fun j' hj' => hcompiles j' (List.mem_cons_of_mem _ hj')) hdistinct.2
      refine ⟨m, by rw [List.foldlM_cons, hrules]; exact hm, fun name => ?_⟩
      rw [hget, SortedMap.get?_insert]
      by_cases hname : j.name = name
      · subst hname
        have hnone : rest.find? (fun j' => decide (j'.name = j.name)) = none := by
          rw [List.find?_eq_none]
          intro j' hj' heq
          exact hdistinct.1 (by simpa using ⟨j', hj', of_decide_eq_true heq⟩)
        simp [hnone, settingsOf?, hrules, Except.toOption]
      · simp [hname, Ne.symm hname]

end Scrape

end ScrapeFleet
