import ScrapeFleet.CommandLine
import ScrapeFleet.Proofs.Coordinator.Reload

/-!
# What a checked configuration is good for

A check looks neither at the URLs of targets nor at whether there is a shard.  These are
the only things on which a start can fail that comes after it, and a reload fails on
the URLs alone.
-/

namespace ScrapeFleet

theorem exists_ok_foldlM {ε α β : Type} {f : β → α → Except ε β} {P : α → Prop}
    (hf : ∀ b a, (∃ b', f b a = .ok b') ↔ P a) (l : List α) (b : β) :
    (∃ b', l.foldlM f b = .ok b') ↔ ∀ a ∈ l, P a := by
  induction l generalizing b with
  | nil => simp [pure, Except.pure]
  | cons a l ih =>
      rw [List.foldlM_cons, List.forall_mem_cons, ← hf b a]
      cases hstep : f b a with
      | error e => simp [bind, Except.bind]
      | ok b' => simpa [bind, Except.bind] using ih b'

/-! ## Targets -/

namespace Discovery

def hasHost (url : String) : Bool := (Uri.parse? url).any (!·.authority.isEmpty)

theorem exists_buildTarget (job : String) (t : Config.ListedTarget) :
    (∃ target, buildTarget job t = .ok target) ↔ hasHost t.url = true := by
  unfold buildTarget hasHost
  cases Uri.parse? t.url with
  | none => simp
  | some u => by_cases hhost : u.authority = [] <;> simp [hhost]

theorem exists_addJob (sets : TargetSets) (j : Config.Job) : (∃ sets', addJob sets j = .ok sets') ↔
    Config.Compiles j.relabel ∧ ∀ t ∈ j.targets, hasHost t.url = true := by
  unfold addJob Config.Compiles
  cases Config.compileRules j.relabel with
  | error f => simp [bind, Except.bind, Except.mapError]
  | ok rules =>
      simp only [Except.mapError, bind, Except.bind, Except.ok.injEq, exists_eq', true_and]
      refine exists_ok_foldlM (fun sets t => ?_) j.targets sets
      rw [← exists_buildTarget j.name t]
      cases buildTarget j.name t <;> simp [Except.map]

def NamesHosts (c : Config) : Prop := ∀ j ∈ c.jobs, ∀ t ∈ j.targets, hasHost t.url = true

theorem exists_ofConfig {c : Config} (hvalid : c.validate = .ok ()) :
    (∃ sets, ofConfig c = .ok sets) ↔ NamesHosts c := by
  rw [ofConfig, exists_ok_foldlM exists_addJob]
  refine forall₂_congr fun j hj => and_iff_right ?_
  exact (Config.Job.compiles_of_check (Config.check_of_validate hvalid hj)).1

end Discovery

theorem Fleet.exists_ofShards {ρ : Type} (connect : String → ρ) (c : Config) :
    (∃ f, Fleet.ofShards (Coordinator.shardsOf connect c) = .ok f) ↔ c.shards ≠ [] := by
  unfold Coordinator.shardsOf Fleet.ofShards
  cases c.shards <;> simp

namespace CommandLine

variable {ρ : Type} {file : Option ByteArray} {l : Config.Loaded}

theorem exists_check (hl : Config.loadFile file = .ok l) (path : String) :
    ∃ lines, check path file = .ok lines := by
  obtain ⟨⟨p, hp⟩, -⟩ := Config.validate_eq_ok_iff.1 (Config.loadFile_eq_ok hl).valid
  refine ⟨report path l p, ?_⟩
  simp [check, hl, hp, bind, Except.bind, Except.mapError, pure, Except.pure]

/-- Of all that a start does with a configuration that has been loaded, only making the targets and
making the pool may fail. -/
theorem exists_coordinator (hl : Config.loadFile file = .ok l) (connect : String → ρ)
    (draws : Draws) : (∃ c, coordinator connect draws file = .ok c) ↔
      (∃ sets, Discovery.ofConfig l.config = .ok sets) ∧
        ∃ f, Fleet.ofShards (Coordinator.shardsOf connect l.config) = .ok f := by
  have hvalid := (Config.loadFile_eq_ok hl).valid
  obtain ⟨⟨p, hp⟩, -, ⟨d, hd⟩, -⟩ := Config.validate_eq_ok_iff.1 hvalid
  obtain ⟨settings, hsettings, -⟩ := Scrape.settings_eq_ok hvalid
  have hcoordinator : coordinator connect draws file =
      Coordinator.start l (Coordinator.shardsOf connect l.config) draws := by
    rw [coordinator, hl]
    rfl
  rw [hcoordinator, Coordinator.start, hsettings, hd, hp]
  cases Discovery.ofConfig l.config with
  | error f => simp [bind, Except.bind, Except.mapError]
  | ok sets =>
      cases Fleet.ofShards (Coordinator.shardsOf connect l.config) with
      | error f => simp [bind, Except.bind, Except.mapError]
      | ok f => simp [bind, Except.bind, Except.mapError, pure, Except.pure]

theorem exists_reload (hl : Config.loadFile file = .ok l) (c : Coordinator ρ) :
    (∃ l' c', c.reload file = (.ok l', c')) ↔ ∃ sets, Discovery.ofConfig l.config = .ok sets := by
  obtain ⟨settings, hsettings, -⟩ := Scrape.settings_eq_ok (Config.loadFile_eq_ok hl).valid
  rw [Coordinator.reload_eq, hl]
  cases htargets : Discovery.ofConfig l.config with
  | error f => simp [htargets]
  | ok sets => simp [htargets, hsettings]

/-- A configuration that has been loaded passes the check.  It can be reloaded just if all targets
have a URL with a host, and started just if there is a shard as well. -/
theorem starts_iff (hl : Config.loadFile file = .ok l) (path : String) (connect : String → ρ)
    (draws : Draws) :
    (∃ lines, check path file = .ok lines) ∧
      ((∃ c, coordinator connect draws file = .ok c) ↔
        Discovery.NamesHosts l.config ∧ l.config.shards ≠ []) ∧
      ∀ c : Coordinator ρ, (∃ l' c', c.reload file = (.ok l', c')) ↔
        Discovery.NamesHosts l.config := by
  have htargets := Discovery.exists_ofConfig (Config.loadFile_eq_ok hl).valid
  refine ⟨exists_check hl path, ?_, fun c => (exists_reload hl c).trans htargets⟩
  rw [exists_coordinator hl, htargets, Fleet.exists_ofShards]

def withTarget (url : String) : ByteArray :=
  ("[[shards]]\nid = \"s0\"\nreplicas = [\"127.0.0.1:1\"]\n" ++
    "[[jobs]]\nname = \"n\"\n[[jobs.targets]]\nurl = \"" ++ url ++ "\"\n").toUTF8

theorem starts_iff_of_host :
    let file := some (withTarget "http://a:1/metrics")
    (∃ lines, check "fleet.toml" file = .ok lines) ∧
      ∃ c, coordinator id { ahead := [] } file = .ok c := by
  intro file
  have hloads : (Config.loadFile file).toOption.any (fun l =>
      l.config.jobs.all (·.targets.all (Discovery.hasHost ·.url)) &&
        !l.config.shards.isEmpty) = true := by
    decide +kernel
  cases hl : Config.loadFile file with
  | error f => simp [hl, Except.toOption] at hloads
  | ok l =>
      rw [hl] at hloads
      simp only [Except.toOption, Option.any_some, Bool.and_eq_true, List.all_eq_true,
        Bool.not_eq_true', List.isEmpty_eq_false_iff] at hloads
      obtain ⟨hcheck, hstart, -⟩ := starts_iff hl "fleet.toml" id { ahead := [] }
      exact ⟨hcheck, hstart.2 hloads⟩

/-- The check passes a target without a host and a file without shards; neither can be started. -/
theorem check_passes_unstartable :
    ((check "fleet.toml" (some (withTarget "/nohost"))).toOption.isSome = true ∧
      ¬ ∃ c, coordinator id { ahead := [] } (some (withTarget "/nohost")) = .ok c) ∧
    (check "fleet.toml" (some .empty)).toOption.isSome = true ∧
      ¬ ∃ c, coordinator id { ahead := [] } (some .empty) = .ok c := by
  have hfails : ∀ file ∈ [some (withTarget "/nohost"), some .empty],
      (coordinator id { ahead := [] } file).toOption.isNone = true := by decide +kernel
  refine ⟨⟨by decide +kernel, ?_⟩, by decide +kernel, ?_⟩
  · rintro ⟨c, hc⟩
    simpa [hc, Except.toOption] using hfails (some (withTarget "/nohost")) (by simp)
  · rintro ⟨c, hc⟩
    simpa [hc, Except.toOption] using hfails (some .empty) (by simp)

end CommandLine

end ScrapeFleet
