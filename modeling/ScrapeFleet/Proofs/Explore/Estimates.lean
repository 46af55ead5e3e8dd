import ScrapeFleet.Proofs.Explore.Actions

/-!
# What an estimate is made of

The entry of a target sums up the samples that have been recorded into it since it was made,
whichever workers bring them and in whatever order.  A sample that was begun before the
target was forgotten counts for the entry that it finds in the end.
-/

namespace ScrapeFleet

/-! ## Tallies -/

/-- What is known of a target from its samples. -/
structure Tally where
  status : Status := .fresh 0
  samples : Nat := 0

namespace Tally

variable {x : Tally} {samples : List (Except String Int)}

def add (x : Tally) (startedMs durationMs : Nat) : Except String Int → Tally
  | .ok series =>
    { status := x.status.record startedMs durationMs (.ok (max series x.status.series))
      samples := x.samples + 1 }
  | .error message =>
    { x with status := x.status.record startedMs durationMs (.error message) }

def counted (samples : List (Except String Int)) : List Int := samples.filterMap Except.toOption

def healthAfter (samples : List (Except String Int)) : Health :=
  match samples.getLast? with
  | none => .unknown
  | some (.ok _) => .good
  | some (.error _) => .bad

structure Sums (x : Tally) (samples : List (Except String Int)) : Prop where
  series : (0 :: counted samples).max? = some x.status.series
  successes : x.samples = (counted samples).length
  scrapes : x.status.scrapes = samples.length
  health : x.status.health = healthAfter samples

theorem sums_nil : Sums {} [] := ⟨rfl, rfl, rfl, rfl⟩

theorem counted_concat_ok (samples : List (Except String Int)) (series : Int) :
    counted (samples ++ [.ok series]) = counted samples ++ [series] := by
  rw [counted, List.filterMap_append]
  rfl

theorem counted_concat_error (samples : List (Except String Int)) (message : String) :
    counted (samples ++ [.error message]) = counted samples := by
  rw [counted, List.filterMap_append]
  exact List.append_nil _

theorem healthAfter_concat (samples : List (Except String Int)) (outcome : Except String Int) :
    healthAfter (samples ++ [outcome]) = healthAfter [outcome] := by
  rw [healthAfter, List.getLast?_concat]
  rfl

theorem Sums.add (hx : Sums x samples) (startedMs durationMs : Nat)
    (outcome : Except String Int) :
    Sums (x.add startedMs durationMs outcome) (samples ++ [outcome]) := by
  obtain ⟨hseries, hsuccesses, hscrapes, hhealth⟩ := hx
  cases outcome with
  | ok series =>
      constructor
      · rw [List.max?_cons', Option.some.injEq] at hseries
        rw [counted_concat_ok, List.max?_cons', List.foldl_append, hseries]
        exact congrArg some (Int.max_comm _ _)
      · rw [counted_concat_ok, List.length_append, ← hsuccesses]
        rfl
      · rw [List.length_append, ← hscrapes]
        rfl
      · rw [healthAfter_concat]
        rfl
  | error message =>
      constructor
      · rw [counted_concat_error, hseries]
        rfl
      · rw [counted_concat_error, ← hsuccesses]
        rfl
      · rw [List.length_append, ← hscrapes]
        rfl
      · rw [healthAfter_concat]
        rfl

end Tally

def ExploredTarget.tally (x : ExploredTarget) : Tally :=
  { status := x.status, samples := x.samples }

namespace Explorer

variable {e : Explorer} {active : TargetsByJob} {k : Token} {x : ExploredTarget}

/-! ## Steps -/

def tally? (e : Explorer) (k : Token) : Option Tally := (e.entry? k).map (·.tally)

theorem tally?_eq_some (hx : e.entry? k = some x) : e.tally? k = some x.tally := by
  rw [tally?, hx, Option.map_some]

theorem tally?_eq_none (hx : e.entry? k = none) : e.tally? k = none := by
  rw [tally?, hx, Option.map_none]

theorem tally?_put (e : Explorer) (k : Token) (x : ExploredTarget) (k' : Token) :
    (e.put k x).tally? k' = if k' = k then some x.tally else e.tally? k' := by
  rw [tally?, entry?_put, apply_ite (Option.map _)]
  rfl

theorem tally?_request (e : Explorer) (k : Token) (x : ExploredTarget) (k' : Token) :
    (e.request k x).tally? k' = if k' = k then some x.tally else e.tally? k' := by
  obtain ⟨queued, -, hputs⟩ := e.request_puts k x
  rw [tally?, hputs.entry, apply_ite (Option.map _)]
  rfl

theorem get_cases (e : Explorer) (job : String) (t : Target) :
    (∃ x, e.entry? (job, t.hash) = some x ∧ (e.get job t).2 = e) ∨
      ∃ x : ExploredTarget, x.tally = (e.tally? (job, t.hash)).getD {} ∧
        (e.get job t).2 = e.request (job, t.hash) x := by
  unfold Explorer.get
  dsimp only
  split
  · rename_i hx
    exact .inr ⟨{ target := t }, by rw [tally?_eq_none hx]; rfl, rfl⟩
  · rename_i x hx
    dsimp only
    split
    · exact .inl ⟨x, hx, rfl⟩
    · split
      · exact .inr ⟨x, by rw [tally?_eq_some hx, Option.getD_some], rfl⟩
      · exact .inl ⟨x, hx, rfl⟩

theorem tally?_get (e : Explorer) (job : String) (t : Target) (k : Token) :
    (e.get job t).2.tally? k =
      if k = (job, t.hash) then some ((e.tally? k).getD {}) else e.tally? k := by
  by_cases hk : k = (job, t.hash)
  · subst hk
    rcases e.get_cases job t with ⟨x, hx, hsame⟩ | ⟨x, htally, hrequest⟩
    · rw [hsame, if_pos rfl, tally?_eq_some hx, Option.getD_some]
    · rw [hrequest, tally?_request, if_pos rfl, if_pos rfl, htally]
  · rcases e.get_cases job t with ⟨x, hx, hsame⟩ | ⟨x, htally, hrequest⟩
    · rw [hsame, if_neg hk]
    · rw [hrequest, tally?_request, if_neg hk, if_neg hk]

theorem tally?_take (e : Explorer) : e.take.tally? = e.tally? := by
  unfold take
  split <;> rfl

theorem tally?_dequeue (e : Explorer) : e.dequeue.2.tally? = e.tally? := by
  unfold dequeue
  split
  · rfl
  · dsimp only
    split <;> rfl

theorem tally?_retry (e : Explorer) (k : Token) : (e.retry k).tally? = e.tally? := by
  unfold Explorer.retry
  dsimp only
  split
  · rfl
  · rename_i x hx
    funext k'
    rw [tally?_put, tally?, entry?_enqueue]
    by_cases hk : k' = k
    · rw [if_pos hk, hk]
      exact (tally?_eq_some hx).symm
    · rw [if_neg hk]
      rfl

theorem tally?_finish (e : Explorer) (k : Token) (startedMs durationMs : Nat)
    (outcome : Except String Int) (k' : Token) :
    (e.finish k startedMs durationMs outcome).tally? k' =
      if k' = k then (e.tally? k').map (·.add startedMs durationMs outcome) else e.tally? k' := by
  let freed : Explorer := { e with sampling := e.sampling.erase k }
  change _ = if k' = k then (freed.tally? k').map (·.add startedMs durationMs outcome)
    else freed.tally? k'
  unfold Explorer.finish
  dsimp only
  split
  · rename_i hx
    by_cases hk : k' = k
    · rw [if_pos hk, hk, tally?_eq_none hx, Option.map_none]
    · rw [if_neg hk]
  · rename_i x hx
    have hadd : ∀ y : ExploredTarget, y.tally = x.tally.add startedMs durationMs outcome →
        (if k' = k then some y.tally else freed.tally? k') =
          if k' = k then (freed.tally? k').map (·.add startedMs durationMs outcome)
          else freed.tally? k' := by
      intro y hy
      by_cases hk : k' = k
      · rw [if_pos hk, if_pos hk, hk, tally?_eq_some hx, Option.map_some, hy]
      · rw [if_neg hk, if_neg hk]
    cases outcome with
    | ok series => exact (tally?_request _ k _ k').trans (hadd _ rfl)
    | error message => exact (tally?_put (freed.count k.1 _) k _ k').trans (hadd _ rfl)

theorem tally?_updateTargets (e : Explorer) (active : TargetsByJob) (k : Token) :
    ((e.updateTargets active).tally? k).getD {} =
      if (active.listings k).length = 1 then (e.tally? k).getD {} else {} := by
  rw [tally?, entry?_updateTargets]
  rcases active.listings k with _ | ⟨t, _ | ⟨t', rest⟩⟩
  · rfl
  · cases hx : e.entry? k with
    | none => rw [tally?_eq_none hx]; rfl
    | some x => rw [tally?_eq_some hx]; rfl
  · obtain ⟨last, hlast⟩ := relisted_again (e.entry? k) none t t' rest
    rw [hlast, if_neg (by simp)]
    rfl

theorem tally?_retainJobs (e : Explorer) (keep : String → Bool) (k : Token) :
    ((e.retainJobs keep).tally? k).getD {} =
      if keep k.1 then (e.tally? k).getD {} else {} := by
  rw [tally?, entry?_retainJobs]
  by_cases hkeep : keep k.1 = true
  · rw [if_pos hkeep, if_pos hkeep, tally?]
  · rw [if_neg hkeep, if_neg hkeep]
    rfl

/-! ## Runs -/

namespace Action

/-- The samples in the entry of `k` after an action, if those in it before are `samples`.  A new
entry has none, and one that is forgotten or replaced takes them along. -/
def record (k : Token) (e : Explorer) (samples : List (Except String Int)) :
    Action → List (Except String Int)
  | .get job t => if k = (job, t.hash) ∧ e.entry? k = none then [] else samples
  | .updateTargets active =>
    if (active.listings k).length = 1 ∧ (e.entry? k).isSome then samples else []
  | .retainJobs keep => if keep k.1 then samples else []
  | .finish k' _ _ outcome =>
    if k' = k ∧ (e.entry? k).isSome then samples ++ [outcome] else samples
  | _ => samples

theorem sums (a : Action) {samples : List (Except String Int)}
    (hsums : ((e.tally? k).getD {}).Sums samples) :
    (((a.run e).tally? k).getD {}).Sums (a.record k e samples) := by
  cases a with
  | get job t =>
      have htally : ((e.get job t).2.tally? k).getD {} = (e.tally? k).getD {} := by
        rw [tally?_get]
        split <;> rfl
      rw [run, htally, record]
      split
      · rename_i hnew
        rw [tally?_eq_none hnew.2]
        exact Tally.sums_nil
      · exact hsums
  | updateTargets active =>
      rw [run, tally?_updateTargets, record]
      by_cases honce : (active.listings k).length = 1
      · cases hx : e.entry? k with
        | none =>
            rw [if_pos honce, if_neg (by simp), tally?_eq_none hx]
            exact Tally.sums_nil
        | some x => rwa [if_pos honce, if_pos ⟨honce, rfl⟩]
      · rw [if_neg honce, if_neg (fun h => honce h.1)]
        exact Tally.sums_nil
  | retainJobs keep =>
      rw [run, tally?_retainJobs, record]
      split
      · exact hsums
      · exact Tally.sums_nil
  | take => rwa [run, tally?_take]
  | dequeue => rwa [run, tally?_dequeue]
  | drop k' => exact hsums
  | finish k' startedMs durationMs outcome =>
      rw [run, tally?_finish, record]
      by_cases hk : k = k'
      · subst hk
        rw [if_pos rfl]
        cases hx : e.entry? k with
        | none =>
            rw [if_neg (by simp)]
            rwa [tally?_eq_none hx] at hsums ⊢
        | some x =>
            rw [if_pos ⟨rfl, rfl⟩]
            rw [tally?_eq_some hx] at hsums ⊢
            exact hsums.add startedMs durationMs outcome
      · rwa [if_neg hk, if_neg (fun h => hk h.1.symm)]
  | retry k' => rwa [run, tally?_retry]
  | cancel waiting => exact hsums

end Action

def runAll (e : Explorer) (actions : List Action) : Explorer := actions.foldl Action.run e

def recorded (k : Token) : List Action → Explorer → List (Except String Int) →
    List (Except String Int)
  | [], _, samples => samples
  | a :: rest, e, samples => recorded k rest (a.run e) (a.record k e samples)

theorem runAll_sums (actions : List Action) {samples : List (Except String Int)}
    (hsums : ((e.tally? k).getD {}).Sums samples) :
    (((e.runAll actions).tally? k).getD {}).Sums (recorded k actions e samples) := by
  induction actions generalizing e samples with
  | nil => exact hsums
  | cons a rest ih => exact ih (a.sums hsums)

theorem length_listings_le_one
    (hnodup : ∀ job ts, active.get? job = some ts → (ts.map (·.hash)).Nodup) (k : Token) :
    (active.listings k).length ≤ 1 := by
  rw [TargetsByJob.listings]
  cases hts : active.get? k.1 with
  | none => exact Nat.zero_le 1
  | some ts =>
      have hcount := List.nodup_iff_count.1 (hnodup k.1 ts hts) k.2
      rw [List.count_eq_countP, List.countP_map, List.countP_eq_length_filter] at hcount
      exact hcount

/-- Where no job lists a target twice, an update leaves a known target as it is or forgets it. -/
theorem entry?_updateTargets_of_nodup
    (hnodup : ∀ job ts, active.get? job = some ts → (ts.map (·.hash)).Nodup)
    (hx : e.entry? k = some x) :
    entry? (e.updateTargets active) k = if active.listings k = [] then none else some x := by
  by_cases hlisted : active.listings k = []
  · rw [if_pos hlisted, entry?_updateTargets, hlisted]
    rfl
  · have hone := length_listings_le_one hnodup k
    have hpos := List.length_pos_iff.2 hlisted
    rw [if_neg hlisted, entry?_updateTargets_of_once (by omega) hx]

variable {n : Nat} {actions : List Action}

/-- An entry tells the greatest of the samples that have succeeded, how many these are, how many
samples there have been, and how the last one went.  A failure, an update that lists it once, and
a configuration that keeps its job leave the estimate as it is. -/
theorem runAll_estimate (hx : entry? ((ofQueueSize n).runAll actions) k = some x) :
    let e := (ofQueueSize n).runAll actions
    let samples := recorded k actions (ofQueueSize n) []
    ((0 :: Tally.counted samples).max? = some x.status.series ∧
        x.samples = (Tally.counted samples).length ∧
        x.status.scrapes = samples.length ∧
        x.status.health = Tally.healthAfter samples) ∧
      (∀ startedMs durationMs message,
        ∃ y, entry? (e.finish k startedMs durationMs (.error message)) k = some y ∧
          y.status.series = x.status.series ∧ y.samples = x.samples) ∧
      (∀ active : TargetsByJob,
        (∀ job ts, active.get? job = some ts → (ts.map (·.hash)).Nodup) →
        entry? (e.updateTargets active) k = if active.listings k = [] then none else some x) ∧
      ∀ keep, entry? (e.retainJobs keep) k = if keep k.1 then some x else none := by
  intro e samples
  refine ⟨?_, fun startedMs durationMs message => ?_, fun active hnodup => ?_, fun keep => ?_⟩
  · have hsums : x.tally.Sums samples := by
      have hrun := runAll_sums (k := k) (e := ofQueueSize n) actions Tally.sums_nil
      rwa [tally?_eq_some hx] at hrun
    exact ⟨hsums.series, hsums.successes, hsums.scrapes, hsums.health⟩
  · have htally := tally?_finish e k startedMs durationMs (.error message) k
    rw [if_pos rfl, tally?_eq_some hx, Option.map_some, tally?, Option.map_eq_some_iff] at htally
    obtain ⟨y, hy, hfailed⟩ := htally
    exact ⟨y, hy, congrArg (·.status.series) hfailed, congrArg (·.samples) hfailed⟩
  · exact entry?_updateTargets_of_nodup hnodup hx
  · rw [entry?_retainJobs, hx]

def lateSample : List Action :=
  let t : Target := { hash := 1, job := "node", url := "a" }
  let k : Token := ("node", 1)
  [.get "node" t, .dequeue, .updateTargets ∅, .get "node" t, .finish k 0 0 (.ok 40),
    .dequeue, .finish k 0 0 (.ok 25), .dequeue, .finish k 0 0 (.error "refused")]

theorem runAll_estimate_lateSample :
    let e := (ofQueueSize 16).runAll lateSample
    let k : Token := ("node", 1)
    let active : TargetsByJob := .ofList [("node", [{ hash := 1, job := "node", url := "a" }])]
    recorded k lateSample (ofQueueSize 16) [] = [.ok 40, .ok 25, .error "refused"] ∧
      ∃ x, e.entry? k = some x ∧
        x.status.series = 40 ∧ x.samples = 2 ∧ x.status.scrapes = 3 ∧ x.status.health = .bad ∧
        (∀ job ts, active.get? job = some ts → (ts.map (·.hash)).Nodup) ∧
        entry? (e.updateTargets active) k = some x := by
  intro e k active
  have hrecorded : recorded k lateSample (ofQueueSize 16) [] =
      [.ok 40, .ok 25, .error "refused"] := by rfl
  have hknown : (e.entry? k).isSome = true := by decide +kernel
  obtain ⟨x, hx⟩ := Option.isSome_iff_exists.1 hknown
  obtain ⟨⟨hseries, hsamples, hscrapes, hhealth⟩, -, hupdate, -⟩ := runAll_estimate hx
  rw [hrecorded] at hseries hsamples hscrapes hhealth
  have hnodup : ∀ job ts, active.get? job = some ts → (ts.map (·.hash)).Nodup := by
    intro job ts hts
    cases List.mem_singleton.1 (SortedMap.mem_of_get?_ofList hts)
    exact List.pairwise_singleton _ _
  exact ⟨hrecorded, x, hx, (Option.some.inj hseries).symm, hsamples, hscrapes, hhealth, hnodup,
    hupdate active hnodup⟩

end Explorer

end ScrapeFleet
