import ScrapeFleet.Proofs.Coordinator.Starting

/-!
# Every listed target is active or dropped

Discovery goes through the jobs and, within a job, through the targets that it lists, and
puts each target at the end of one of two lists.  One target changes only the lists of
its own job, so the lists of a job are those of its own targets, split by its rules.
-/

namespace ScrapeFleet

/-! ## Lists by job -/

/-- The targets of a job, in order.  A job without any has no entry. -/
def TargetsByJob.HasList (ts : TargetsByJob) (job : String) (l : List Target) : Prop :=
  ts.get? job = if l = [] then none else some l

namespace TargetsByJob

variable {ts : TargetsByJob} {job : String} {l : List Target}

theorem get?_add_of_ne {name : String} (hne : name ≠ job) (t : Target) :
    (ts.add job t).get? name = ts.get? name := by
  simp [add, SortedMap.alter, SortedMap.get?_insert, hne]

theorem HasList.add (h : ts.HasList job l) (t : Target) :
    (ts.add job t).HasList job (l ++ [t]) := by
  unfold HasList at h ⊢
  rw [TargetsByJob.add, SortedMap.alter, SortedMap.get?_insert, if_pos rfl, h]
  by_cases hnil : l = [] <;> simp [hnil]

end TargetsByJob

namespace TargetSets

structure Divides (sets : TargetSets) (job : String) (keeps : Target → Bool) (l : List Target) :
    Prop where
  active : sets.active.HasList job (l.filter keeps)
  dropped : sets.dropped.HasList job (l.filter (!keeps ·))

structure SameAt (name : String) (sets sets' : TargetSets) : Prop where
  active : sets'.active.get? name = sets.active.get? name
  dropped : sets'.dropped.get? name = sets.dropped.get? name

variable {sets sets' sets'' : TargetSets} {name job : String} {keeps : Target → Bool}
  {l : List Target}

theorem SameAt.refl (name : String) (sets : TargetSets) : SameAt name sets sets := ⟨rfl, rfl⟩

theorem SameAt.trans (h : SameAt name sets sets') (h' : SameAt name sets' sets'') :
    SameAt name sets sets'' :=
  ⟨h'.active.trans h.active, h'.dropped.trans h.dropped⟩

theorem SameAt.divides (h : SameAt job sets sets') (hl : sets.Divides job keeps l) :
    sets'.Divides job keeps l :=
  ⟨h.active.trans hl.active, h.dropped.trans hl.dropped⟩

theorem divides_nil (hactive : sets.active.get? job = none) (hdropped : sets.dropped.get? job = none)
    (keeps : Target → Bool) : sets.Divides job keeps [] :=
  ⟨hactive, hdropped⟩

end TargetSets

namespace Discovery

/-! ## One target -/

structure IsTargetOf (job : String) (listed : Config.ListedTarget) (u : Uri) (t : Target) : Prop where
  inJob : t.job = job
  url : t.url = listed.url
  discovered : t.discovered = discoveredLabels job u listed.labels
  visible : ∀ name v, t.labels.get? name = some v → ¬ hiddenMark <+: name.toList
  jobLabel : t.labels.get? "job" = some job
  instanceLabel : t.labels.get? "instance" =
    some ((listed.labels.get? "instance").getD (String.ofList u.authority))
  otherLabels : ∀ name, ¬ hiddenMark <+: name.toList → name ≠ "job" → name ≠ "instance" →
    t.labels.get? name = listed.labels.get? name

/-- The target is what the listed one becomes, which has a URL with a host. -/
def Becomes (job : String) (listed : Config.ListedTarget) (t : Target) : Prop :=
  ∃ u, Uri.parse? listed.url = some u ∧ u.authority ≠ [] ∧ IsTargetOf job listed u t

theorem isHidden_iff (name : String) : isHidden name = true ↔ hiddenMark <+: name.toList :=
  List.isPrefixOf_iff_prefix

theorem get?_finalLabels (job : String) (u : Uri) (configured : Labels) (k : String) :
    (finalLabels job u configured).get? k =
      if k = "instance" then some ((configured.get? "instance").getD (String.ofList u.authority))
      else if k = "job" then some job
      else if isHidden k = true then none
      else configured.get? k := by
  have hfiltered : ∀ name, (configured.filter (fun k _ => !isHidden k)).get? name =
      if isHidden name = true then none else configured.get? name := by
    intro name
    rw [SortedMap.get?_filter]
    cases configured.get? name <;> by_cases hname : isHidden name = true <;>
      simp [Option.filter, hname]
  have hshown : isHidden "instance" = false := by decide
  simp [finalLabels, SortedMap.alter, SortedMap.get?_insert, hfiltered, hshown]

theorem isTargetOf_ofLabels (job : String) (listed : Config.ListedTarget) (u : Uri) :
    IsTargetOf job listed u (.ofLabels job listed.url (discoveredLabels job u listed.labels)
      (finalLabels job u listed.labels)) where
  inJob := rfl
  url := rfl
  discovered := rfl
  visible name v hv := by
    rw [← isHidden_iff]
    intro hhidden
    have hshown : isHidden "instance" = false ∧ isHidden "job" = false := by decide
    have hne : name ≠ "instance" ∧ name ≠ "job" := by
      constructor <;> rintro rfl <;> simp [hshown] at hhidden
    rw [Target.ofLabels, get?_finalLabels, if_neg hne.1, if_neg hne.2, if_pos hhidden] at hv
    cases hv
  jobLabel := by simp [Target.ofLabels, get?_finalLabels]
  instanceLabel := by simp [Target.ofLabels, get?_finalLabels]
  otherLabels name hvisible hjob hinstance := by
    rw [← isHidden_iff] at hvisible
    simp [Target.ofLabels, get?_finalLabels, hjob, hinstance, hvisible]

theorem becomes_of_buildTarget {job : String} {listed : Config.ListedTarget} {t : Target}
    (ht : buildTarget job listed = .ok t) : Becomes job listed t := by
  unfold buildTarget at ht
  cases hu : Uri.parse? listed.url with
  | none => simp [hu] at ht
  | some u =>
      by_cases hhost : u.authority = []
      · simp [hu, hhost] at ht
      · simp only [hu, List.isEmpty_iff, hhost, if_false] at ht
        obtain rfl := Except.ok.inj ht
        exact ⟨u, hu, hhost, isTargetOf_ofLabels job listed u⟩

section Steps

variable {rules : List Relabel.Filter} {job : String} {sets : TargetSets} {l : List Target}

theorem divides_addTarget (h : sets.Divides job (fun t => Relabel.keepsAll rules t.discovered) l)
    (t : Target) : (addTarget rules job sets t).Divides job
      (fun t => Relabel.keepsAll rules t.discovered) (l ++ [t]) := by
  unfold addTarget
  by_cases hkeeps : Relabel.keepsAll rules t.discovered = true
  · rw [if_pos hkeeps]
    constructor
    · simpa [List.filter_append, hkeeps] using h.active.add t
    · simpa [List.filter_append, hkeeps] using h.dropped
  · rw [if_neg hkeeps]
    constructor
    · simpa [List.filter_append, hkeeps] using h.active
    · simpa [List.filter_append, hkeeps] using h.dropped.add t

theorem sameAt_addTarget {name : String} (hne : name ≠ job) (t : Target) :
    TargetSets.SameAt name sets (addTarget rules job sets t) := by
  unfold addTarget
  split
  · exact ⟨TargetsByJob.get?_add_of_ne hne t, rfl⟩
  · exact ⟨rfl, TargetsByJob.get?_add_of_ne hne t⟩

end Steps

/-! ## One job -/

/-- What a job's targets become, split by its rules. -/
def Splits (j : Config.Job) (sets : TargetSets) : Prop :=
  ∃ rules built, Config.compileRules j.relabel = .ok rules ∧
    List.Forall₂ (Becomes j.name) j.targets built ∧
      sets.Divides j.name (fun t => Relabel.keepsAll rules t.discovered) built

theorem foldlM_addTarget {rules : List Relabel.Filter} {job : String}
    {targets : List Config.ListedTarget} {sets sets' : TargetSets} {l : List Target}
    (hsets : targets.foldlM (fun sets t => (buildTarget job t).map (addTarget rules job sets))
      sets = .ok sets')
    (hl : sets.Divides job (fun t => Relabel.keepsAll rules t.discovered) l) :
    (∃ built, List.Forall₂ (Becomes job) targets built ∧
      sets'.Divides job (fun t => Relabel.keepsAll rules t.discovered) (l ++ built)) ∧
      ∀ name ≠ job, TargetSets.SameAt name sets sets' := by
  induction targets generalizing sets l with
  | nil =>
      obtain rfl := Except.ok.inj hsets
      exact ⟨⟨[], .nil, by rwa [List.append_nil]⟩, fun name _ => .refl name sets⟩
  | cons listed rest ih =>
      rw [List.foldlM_cons] at hsets
      cases ht : buildTarget job listed with
      | error f =>
          rw [ht] at hsets
          cases hsets
      | ok t =>
          rw [ht] at hsets
          obtain ⟨⟨built, hbuilt, hdivides⟩, hsame⟩ := ih hsets (divides_addTarget hl t)
          refine ⟨⟨t :: built, .cons (becomes_of_buildTarget ht) hbuilt, ?_⟩, fun name hne => ?_⟩
          · rwa [List.append_assoc, List.singleton_append] at hdivides
          · exact (sameAt_addTarget hne t).trans (hsame name hne)

theorem splits_addJob {j : Config.Job} {sets sets' : TargetSets} (hsets : addJob sets j = .ok sets')
    (hactive : sets.active.get? j.name = none) (hdropped : sets.dropped.get? j.name = none) :
    Splits j sets' ∧ ∀ name ≠ j.name, TargetSets.SameAt name sets sets' := by
  unfold addJob at hsets
  cases hrules : Config.compileRules j.relabel with
  | error f =>
      rw [hrules] at hsets
      cases hsets
  | ok rules =>
      rw [hrules] at hsets
      obtain ⟨⟨built, hbuilt, hdivides⟩, hsame⟩ :=
        foldlM_addTarget hsets (TargetSets.divides_nil hactive hdropped _)
      exact ⟨⟨rules, built, hrules, hbuilt, hdivides⟩, hsame⟩

/-! ## All jobs -/

theorem splits_foldlM {jobs : List Config.Job} {sets sets' : TargetSets}
    (hsets : jobs.foldlM addJob sets = .ok sets') (hnodup : (jobs.map (·.name)).Nodup)
    (hnew : ∀ j ∈ jobs, sets.active.get? j.name = none ∧ sets.dropped.get? j.name = none) :
    (∀ j ∈ jobs, Splits j sets') ∧
      ∀ name ∉ jobs.map (·.name), TargetSets.SameAt name sets sets' := by
  induction jobs generalizing sets with
  | nil =>
      obtain rfl := Except.ok.inj hsets
      exact ⟨by simp, fun name _ => .refl name sets⟩
  | cons j rest ih =>
      rw [List.foldlM_cons] at hsets
      cases hj : addJob sets j with
      | error f =>
          rw [hj] at hsets
          cases hsets
      | ok next =>
          rw [hj] at hsets
          rw [List.map_cons, List.nodup_cons] at hnodup
          obtain ⟨hfresh, hrest⟩ := List.forall_mem_cons.1 hnew
          obtain ⟨⟨rules, built, hrules, hbuilt, hdivides⟩, hsame⟩ :=
            splits_addJob hj hfresh.1 hfresh.2
          have hnext : ∀ j' ∈ rest, next.active.get? j'.name = none ∧
              next.dropped.get? j'.name = none := by
            intro j' hj'
            have hne : j'.name ≠ j.name := fun heq => hnodup.1 (heq ▸ List.mem_map_of_mem hj')
            obtain ⟨hactive, hdropped⟩ := hsame j'.name hne
            rw [hactive, hdropped]
            exact hrest j' hj'
          obtain ⟨hsplits, hkept⟩ := ih hsets hnodup.2 hnext
          refine ⟨List.forall_mem_cons.2 ⟨?_, hsplits⟩, fun name hname => ?_⟩
          · exact ⟨rules, built, hrules, hbuilt, (hkept j.name hnodup.1).divides hdivides⟩
          · rw [List.map_cons, List.mem_cons, not_or] at hname
            exact (hsame name hname.1).trans (hkept name hname.2)

theorem exists_error_iff {c : Config} (hvalid : c.validate = .ok ()) :
    (∃ f, ofConfig c = .error f) ↔ ∃ j ∈ c.jobs, ∃ t ∈ j.targets,
      Uri.parse? t.url = none ∨ ∃ u, Uri.parse? t.url = some u ∧ u.authority = [] := by
  have hhost : ∀ url, hasHost url = true ↔
      ¬ (Uri.parse? url = none ∨ ∃ u, Uri.parse? url = some u ∧ u.authority = []) := by
    intro url
    unfold hasHost
    cases Uri.parse? url <;> simp
  have hfails : (∃ f, ofConfig c = .error f) ↔ ¬ ∃ sets, ofConfig c = .ok sets := by
    cases ofConfig c <;> simp
  rw [hfails, exists_ofConfig hvalid]
  simp only [NamesHosts, hhost]
  push Not
  rfl

/-- For a valid configuration, discovery fails just if the URL of some target cannot be read or
has no authority.  Otherwise it makes one target of each that is listed.  Those of a job are found
under its name in the order of the file: those that all of its rules keep by their discovered
labels among the active ones, and the others among the dropped ones.  There are no other entries. -/
theorem ofConfig_partitions {c : Config} (hvalid : c.validate = .ok ()) :
    ((∃ f, ofConfig c = .error f) ↔ ∃ j ∈ c.jobs, ∃ t ∈ j.targets,
        Uri.parse? t.url = none ∨ ∃ u, Uri.parse? t.url = some u ∧ u.authority = []) ∧
      ∀ sets, ofConfig c = .ok sets →
        (∀ j ∈ c.jobs, ∃ rules built, Config.compileRules j.relabel = .ok rules ∧
          List.Forall₂ (Becomes j.name) j.targets built ∧
          sets.active.HasList j.name (built.filter fun t => Relabel.keepsAll rules t.discovered) ∧
          sets.dropped.HasList j.name
            (built.filter fun t => !Relabel.keepsAll rules t.discovered)) ∧
        ∀ name, ¬ c.HasJob name →
          sets.active.get? name = none ∧ sets.dropped.get? name = none := by
  refine ⟨exists_error_iff hvalid, fun sets hsets => ?_⟩
  obtain ⟨hsplits, hsame⟩ := splits_foldlM hsets (Config.distinct_of_validate hvalid)
    fun _ _ => ⟨rfl, rfl⟩
  refine ⟨fun j hj => ?_, fun name hname => ?_⟩
  · obtain ⟨rules, built, hrules, hbuilt, hdivides⟩ := hsplits j hj
    exact ⟨rules, built, hrules, hbuilt, hdivides.active, hdivides.dropped⟩
  · have hmem : name ∉ c.jobs.map (·.name) :=
      fun hmem => hname (by simpa [Config.HasJob] using hmem)
    exact ⟨(hsame name hmem).active, (hsame name hmem).dropped⟩

def twoZones : Config where
  jobs :=
    [{ name := "node",
       targets := [⟨"http://a:1/metrics", .ofList [("zone", "east")]⟩,
         ⟨"b:2", .ofList [("__zone", "x"), ("instance", "b"), ("job", "y")]⟩,
         ⟨"https://u@c", .ofList [("zone", "west"), ("__meta", "m")]⟩],
       relabel := [{ sourceLabels := ["zone"], regex := "east|west" }] },
     { name := "idle" }]

theorem ofConfig_partitions_twoZones : twoZones.validate = .ok () ∧
    ∃ sets, ofConfig twoZones = .ok sets ∧
      ((sets.active.getD "node" []).map (·.url) = ["http://a:1/metrics", "https://u@c"] ∧
        (sets.dropped.getD "node" []).map (·.url) = ["b:2"]) ∧
      (∃ rules built, Config.compileRules [{ sourceLabels := ["zone"], regex := "east|west" }] =
          .ok rules ∧
        List.Forall₂ (Becomes "node") (twoZones.jobs.flatMap (·.targets)) built ∧
        sets.active.HasList "node" (built.filter fun t => Relabel.keepsAll rules t.discovered)) ∧
      sets.active.get? "app" = none := by
  have hvalid : twoZones.validate = .ok () := by decide +kernel
  obtain ⟨-, hsets⟩ := ofConfig_partitions hvalid
  have hread : (ofConfig twoZones).toOption.any (fun sets =>
      (sets.active.getD "node" []).map (·.url) = ["http://a:1/metrics", "https://u@c"] &&
        (sets.dropped.getD "node" []).map (·.url) = ["b:2"]) = true := by
    decide +kernel
  cases hok : ofConfig twoZones with
  | error f => simp [hok, Except.toOption] at hread
  | ok sets =>
      rw [hok] at hread
      obtain ⟨hjobs, hothers⟩ := hsets sets hok
      obtain ⟨rules, built, hrules, hbuilt, hactive, -⟩ := hjobs _ List.mem_cons_self
      have happ : ¬ twoZones.HasJob "app" := by
        rintro ⟨j, hj, hname⟩
        exact absurd hname ((by decide : ∀ j ∈ twoZones.jobs, j.name ≠ "app") j hj)
      refine ⟨hvalid, sets, rfl, ?_, ⟨rules, built, hrules, hbuilt, hactive⟩,
        (hothers "app" happ).1⟩
      simpa [Except.toOption] using hread

end Discovery

end ScrapeFleet
