import ScrapeFleet.Coordinator
import ScrapeFleet.Proofs.Config.Validity

/-!
# Reloading is all or nothing

A reload hands the new configuration to one part of the coordinator after another,
and nothing takes back what a step has changed.  Still a reload that fails leaves the
coordinator as it was: whatever can fail does so before the first part is changed.
-/

namespace ScrapeFleet

namespace Coordinator

variable {ρ : Type}

/-! ## The steps one after another -/

theorem run_bind {α β : Type} (m : ReloadStep ρ α) (next : α → ReloadStep ρ β)
    (c : Coordinator ρ) :
    (m >>= next).run.run c =
      match m.run.run c with
      | (.error e, c') => (.error e, c')
      | (.ok a, c') => (next a).run.run c' := by
  unfold ExceptT.run StateT.run
  simp only [bind, ExceptT.bind, ExceptT.mk, StateT.bind, ExceptT.bindCont]
  cases m c with
  | mk outcome c' => cases outcome <;> rfl

theorem run_ofExcept {α : Type} (r : Except Fault α) (c : Coordinator ρ) :
    (MonadExcept.ofExcept r : ReloadStep ρ α).run.run c = (r, c) := by
  cases r <;> rfl

theorem run_applyToExplorer (config : Config) (c : Coordinator ρ) :
    (applyToExplorer config).run.run c =
      match Scrape.settings config with
      | .error f => (.error (.ofConfig f), c)
      | .ok settings => (.ok (), { c with
          settings
          explorer := c.explorer.retainJobs (fun job => (config.job? job).isSome) }) := by
  rw [applyToExplorer, applySettings, run_bind, run_bind, run_ofExcept]
  cases Scrape.settings config <;> rfl

/-- What a reload comes to: the faults of the file, of its targets and of its settings, in this
order, or all parts replaced. -/
theorem reload_eq (file : Option ByteArray) (c : Coordinator ρ) :
    c.reload file =
      match Config.loadFile file with
      | .error e => (.error (.config e), c)
      | .ok config =>
        match Discovery.ofConfig config.config with
        | .error f => (.error (.discovery f), c)
        | .ok targets =>
          match Scrape.settings config.config with
          | .error f => (.error (.ofConfig f), c)
          | .ok settings =>
            (.ok config, { c with
              config, targets, settings
              explorer := c.explorer.retainJobs (fun job => (config.config.job? job).isSome) }) := by
  rw [reload, reloadSteps, run_bind, run_ofExcept]
  cases Config.loadFile file with
  | error e => rfl
  | ok config =>
      simp only [Except.mapError]
      rw [run_bind, run_ofExcept]
      cases Discovery.ofConfig config.config with
      | error f => rfl
      | ok targets =>
          simp only
          rw [run_bind, run_applyToExplorer]
          cases Scrape.settings config.config <;> rfl

/-- After a reload of `l`, everything that comes from the configuration comes from `l`: of what was
explored just the jobs are left that `l` still has, and the rest is as it was. -/
structure Adopts (c c' : Coordinator ρ) (l : Config.Loaded) : Prop where
  config : c'.config = l
  targets : Discovery.ofConfig l.config = .ok c'.targets
  settings : ∀ job, c'.settings.get? job = (l.config.job? job).bind l.config.settingsOf?
  entries : ∀ job entries, c'.explorer.jobs.get? job = some entries ↔
    l.config.HasJob job ∧ c.explorer.jobs.get? job = some entries
  counters : ∀ job stats, c'.explorer.stats.get? job = some stats ↔
    l.config.HasJob job ∧ c.explorer.stats.get? job = some stats
  rest : c' = { c with
    config := c'.config
    targets := c'.targets
    settings := c'.settings
    explorer := { c.explorer with jobs := c'.explorer.jobs, stats := c'.explorer.stats } }

theorem get?_filter_hasJob {α : Type} (c : Config) (m : SortedMap String α) (job : String) (a : α) :
    (m.filter (fun job _ => (c.job? job).isSome)).get? job = some a ↔
      c.HasJob job ∧ m.get? job = some a := by
  rw [SortedMap.get?_filter, Option.filter_eq_some_iff, Config.isSome_job?_iff, and_comm]

/-- A reload that fails changes nothing.  One that succeeds has read the file and replaces every
part that comes from it.  It succeeds for every file that loads and whose targets can be built. -/
theorem reload_all_or_nothing (file : Option ByteArray) (c : Coordinator ρ) :
    (match c.reload file with
      | (.error _, c') => c' = c
      | (.ok l, c') => l.OfFile file ∧ c.Adopts c' l) ∧
    ((∃ l c', c.reload file = (.ok l, c')) ↔
      ∃ l sets, Config.loadFile file = .ok l ∧ Discovery.ofConfig l.config = .ok sets) := by
  rw [reload_eq]
  cases hl : Config.loadFile file with
  | error e => simp
  | ok l =>
      have hfile := Config.loadFile_eq_ok hl
      obtain ⟨settings, hsettings, hget⟩ := Scrape.settings_eq_ok hfile.valid
      cases htargets : Discovery.ofConfig l.config with
      | error f => simp [htargets]
      | ok targets =>
          simp only [htargets, hsettings]
          have hadopts : c.Adopts { c with
              config := l, targets, settings
              explorer := c.explorer.retainJobs (fun job => (l.config.job? job).isSome) } l :=
            { config := rfl
              targets := htargets
              settings := hget
              entries := fun _ _ => get?_filter_hasJob l.config _ _ _
              counters := fun _ _ => get?_filter_hasJob l.config _ _ _
              rest := rfl }
          exact ⟨⟨hfile, hadopts⟩, fun _ => ⟨l, targets, rfl, htargets⟩, fun _ => ⟨l, _, rfl⟩⟩

end Coordinator

end ScrapeFleet
