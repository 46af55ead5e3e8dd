import Mathlib.Data.List.Basic
import ScrapeFleet.Replica.Shard

/-!
# Requests to a shard

A request goes to every replica of a group, and so does an assignment, in one loop
(`fanOut`).  When each of them answers, so does the group, and what is true of every
answer and of every replica afterwards is true of what the group returns.  When some of
them fail, a replica is still left as its own answer leaves it, except that everything
is forgotten when all fail.  The shard then forgets its last report, too.
-/

namespace ScrapeFleet

variable {ρ α : Type}

/-- Every replica with `P` answers the request: the answer has `A`, and the replica has `Q`
afterwards. -/
def Replica.Answers (op : Request ρ α) (P : Replica ρ → Prop) (A : α → Prop)
    (Q : Replica ρ → Prop) : Prop :=
  ∀ r, P r → ∃ a r', r.ask op = (.ok a, r') ∧ A a ∧ Q r'

theorem Replica.fst_ask (op : Request ρ α) (r : Replica ρ) : (r.ask op).1 = (op r.endpoint).1 := by
  unfold Replica.ask
  split <;> simp [*]

theorem Replica.endpoint_ask (op : Request ρ α) (r : Replica ρ) :
    (r.ask op).2.endpoint = (op r.endpoint).2 := by
  unfold Replica.ask
  split <;> simp [*]

theorem Replica.observe_cases (m : StatusMap) (r : Replica ρ) :
    (r.observe m).endpoint = r.endpoint ∧ ∀ keys, (r.observe m).applied = some keys →
      r.applied = some keys ∧ keys = .ofStatuses m := by
  unfold Replica.observe
  cases happlied : r.applied with
  | none => simp [happlied]
  | some keys =>
      by_cases hkeys : keys = .ofStatuses m
      · simp [hkeys, happlied]
      · simp [hkeys, Replica.forget]

namespace ReplicaGroup

variable {P Q : Replica ρ → Prop} {A : α → Prop} {op : Request ρ α} {g : ReplicaGroup ρ}

/-! ## Successful answers -/

theorem mem_successes {answers : List (Except RequestError α)} {i : Nat} {a : α} :
    (i, a) ∈ successes answers ↔ answers[i]? = some (.ok a) := by
  simp only [successes, List.mem_filterMap, Prod.exists, List.mem_zipIdx_iff_getElem?]
  constructor
  · rintro ⟨x, k, hx, heq⟩
    cases x with
    | error e => cases heq
    | ok v =>
        obtain ⟨rfl, rfl⟩ := Prod.mk.inj (Option.some.inj heq)
        exact hx
  · intro ha
    exact ⟨.ok a, i, ha, rfl⟩

theorem successes_eq_nil_iff {answers : List (Except RequestError α)} :
    successes answers = [] ↔ ∀ x ∈ answers, x.isOk = false := by
  constructor
  · intro hnone x hx
    obtain ⟨i, hi⟩ := List.mem_iff_getElem?.1 hx
    cases x with
    | error e => rfl
    | ok a => exact absurd (mem_successes.2 hi) (by simp [hnone])
  · intro hfailed
    refine List.eq_nil_iff_forall_not_mem.2 fun ⟨i, a⟩ hmem => ?_
    cases hfailed _ (List.mem_of_getElem? (mem_successes.1 hmem))

/-! ## One loop over the replicas -/

section FanOut

variable {f : Replica ρ → Except RequestError α × Replica ρ} {i : Nat} {r : Replica ρ}

def fanOut (f : Replica ρ → Except RequestError α × Replica ρ) (g : ReplicaGroup ρ) :
    Except RequestError (List (Nat × α)) × ReplicaGroup ρ :=
  if g.isEmpty then (.error .noReplicas, g)
  else
    match successes (g.map (fun r => (f r).1)) with
    | [] => (.error (allFailed (g.map (fun r => (f r).1))), invalidate (g.map (fun r => (f r).2)))
    | found => (.ok found, g.map (fun r => (f r).2))

theorem broadcast_eq_fanOut (op : Request ρ α) (g : ReplicaGroup ρ) :
    g.broadcast op = g.fanOut (Replica.ask op) := by
  simp only [broadcast, fanOut, List.map_map]
  rfl

theorem pushTargets_eq_fanOut [Endpoint ρ] (ts : TargetsByJob) (g : ReplicaGroup ρ) :
    g.pushTargets ts =
      ((g.fanOut (Replica.push ts (.ofTargets ts))).1.map (·.countP (·.2)),
        (g.fanOut (Replica.push ts (.ofTargets ts))).2) := by
  simp only [pushTargets, fanOut, List.map_map, Function.comp_def]
  split
  · rfl
  · split
    · rename_i hnone
      simp only [hnone]
      rfl
    · simp only
      rfl

theorem fst_fanOut (hne : g ≠ []) :
    (g.fanOut f).1 =
      if successes (g.map (fun r => (f r).1)) = [] then .error (allFailed (g.map (fun r => (f r).1)))
      else .ok (successes (g.map (fun r => (f r).1))) := by
  have hempty : g.isEmpty = false := by simpa using hne
  unfold fanOut
  simp only [hempty, Bool.false_eq_true, if_false]
  split
  · rename_i hnone
    rw [if_pos hnone]
  · rename_i hsome
    rw [if_neg hsome]

theorem fanOut_eq_ok {found : List (Nat × α)} {g' : ReplicaGroup ρ}
    (h : g.fanOut f = (.ok found, g')) :
    found ≠ [] ∧ found = successes (g.map (fun r => (f r).1)) ∧ g' = g.map (fun r => (f r).2) := by
  unfold fanOut at h
  split at h
  · cases h
  · split at h
    · cases h
    · rename_i hne
      obtain ⟨hfound, rfl⟩ := Prod.mk.inj h
      obtain rfl := Except.ok.inj hfound
      exact ⟨hne, rfl, rfl⟩

theorem isOk_fanOut_iff : (g.fanOut f).1.isOk = true ↔ ∃ r ∈ g, (f r).1.isOk = true := by
  by_cases hne : g = []
  · subst hne
    exact iff_of_false Bool.false_ne_true (by simp)
  rw [fst_fanOut hne]
  split
  · rename_i hnone
    refine iff_of_false Bool.false_ne_true ?_
    rintro ⟨r, hr, hok⟩
    rw [successes_eq_nil_iff.1 hnone _ (List.mem_map_of_mem hr)] at hok
    cases hok
  · rename_i hsome
    refine iff_of_true rfl ?_
    obtain ⟨⟨i, a⟩, hmem⟩ := List.exists_mem_of_ne_nil _ hsome
    obtain ⟨r, hr, hok⟩ := List.mem_map.1 (List.mem_of_getElem? (mem_successes.1 hmem))
    exact ⟨r, hr, by rw [hok]; rfl⟩

theorem fanOut_of_answers (hne : g ≠ [])
    (hf : ∀ r ∈ g, ∃ a r', f r = (.ok a, r') ∧ A a ∧ Q r') :
    ∃ found g', g.fanOut f = (.ok found, g') ∧ found ≠ [] ∧ (∀ e ∈ found, A e.2) ∧
      g' ≠ [] ∧ ∀ r ∈ g', Q r := by
  have hok : (g.fanOut f).1.isOk = true := by
    obtain ⟨r, hr⟩ := List.exists_mem_of_ne_nil g hne
    obtain ⟨a, r', heq, -, -⟩ := hf r hr
    exact isOk_fanOut_iff.2 ⟨r, hr, by rw [heq]; rfl⟩
  rcases hasked : g.fanOut f with ⟨_ | found, g'⟩
  · rw [hasked] at hok
    cases hok
  · obtain ⟨hfound, rfl, rfl⟩ := fanOut_eq_ok hasked
    refine ⟨_, _, rfl, hfound, ?_, by simpa using hne, ?_⟩
    · rintro ⟨i, a⟩ hmem
      obtain ⟨r, hr, hanswer⟩ := List.mem_map.1 (List.mem_of_getElem? (mem_successes.1 hmem))
      obtain ⟨a', r', heq, ha, -⟩ := hf r hr
      rw [heq] at hanswer
      exact Except.ok.inj hanswer ▸ ha
    · intro r' hr'
      obtain ⟨r, hr, rfl⟩ := List.mem_map.1 hr'
      obtain ⟨a, r', heq, -, hQ⟩ := hf r hr
      rwa [heq]

theorem getElem?_invalidate (hr : g[i]? = some r) : g.invalidate[i]? = some r.forget := by
  rw [invalidate, List.getElem?_map, hr, Option.map_some]

theorem getElem?_fanOut (hr : g[i]? = some r) :
    (g.fanOut f).2[i]? = some (if (g.fanOut f).1.isOk then (f r).2 else (f r).2.forget) := by
  have hempty : g.isEmpty = false := by
    cases g with
    | nil => cases hr
    | cons => rfl
  have hasked : (g.map (fun r => (f r).2))[i]? = some (f r).2 := by
    rw [List.getElem?_map, hr, Option.map_some]
  unfold fanOut
  simp only [hempty, Bool.false_eq_true, if_false]
  split
  · exact getElem?_invalidate hasked
  · exact hasked

/-- What asking one replica brings about, and forgetting keeps, it brings about in the whole
group, whoever answers. -/
theorem forall_fanOut (hf : ∀ r, P r → Q (f r).2) (hforget : ∀ r, Q r → Q r.forget)
    (hg : ∀ r ∈ g, P r) : ∀ r ∈ (g.fanOut f).2, Q r := by
  have hasked : ∀ r ∈ g.map (fun r => (f r).2), Q r :=
    List.forall_mem_map.2 fun r hr => hf r (hg r hr)
  unfold fanOut
  split
  · rename_i hempty
    rw [List.isEmpty_iff.1 hempty]
    exact List.forall_mem_nil _
  · split
    · exact List.forall_mem_map.2 fun r hr => hforget r (hasked r hr)
    · exact hasked

end FanOut

/-! ## Requests to a group -/

theorem broadcast_of_answers (hop : Replica.Answers op P A Q) (hne : g ≠ [])
    (hg : ∀ r ∈ g, P r) :
    ∃ found g', g.broadcast op = (.ok found, g') ∧ found ≠ [] ∧ (∀ e ∈ found, A e.2) ∧
      g' ≠ [] ∧ ∀ r ∈ g', Q r := by
  rw [broadcast_eq_fanOut]
  exact fanOut_of_answers hne fun r hr => hop r (hg r hr)

theorem pickBest_mem (better : α → α → Bool) {values : List α} (hne : values ≠ []) :
    ∃ a ∈ values, pickBest better values = some a := by
  cases values with
  | nil => exact absurd rfl hne
  | cons b l =>
      refine List.foldlRecOn l _ (motive := fun best => ∃ a ∈ b :: l, best = some a)
        ⟨b, List.mem_cons_self, rfl⟩ ?_
      rintro best ⟨a, hmem, rfl⟩ x hx
      dsimp only
      split
      · exact ⟨x, List.mem_cons_of_mem b hx, rfl⟩
      · exact ⟨a, hmem, rfl⟩

theorem read_of_answers (hop : Replica.Answers op P A Q) (better : α → α → Bool) (hne : g ≠ [])
    (hg : ∀ r ∈ g, P r) :
    ∃ a g', g.read op better = (.ok a, g') ∧ A a ∧ g' ≠ [] ∧ ∀ r ∈ g', Q r := by
  obtain ⟨found, g', heq, hfound, hA, hne', hQ⟩ := broadcast_of_answers hop hne hg
  have hvalues : found.map (·.2) ≠ [] := by simpa using hfound
  obtain ⟨a, hmem, hbest⟩ := pickBest_mem better hvalues
  obtain ⟨e, he, rfl⟩ := List.mem_map.1 hmem
  refine ⟨e.2, g', ?_, hA e he, hne', hQ⟩
  unfold read
  simp only [heq, hbest]

theorem write_of_answers {op : Request ρ Unit} {A : Unit → Prop}
    (hop : Replica.Answers op P A Q) (hne : g ≠ []) (hg : ∀ r ∈ g, P r) :
    ∃ g', g.write op = (.ok (), g') ∧ g' ≠ [] ∧ ∀ r ∈ g', Q r := by
  obtain ⟨found, g', heq, -, -, hne', hQ⟩ := broadcast_of_answers hop hne hg
  refine ⟨g', ?_, hne', hQ⟩
  unfold write
  simp only [heq]

theorem pushTargets_of_push [Endpoint ρ] {ts : TargetsByJob} (hne : g ≠ [])
    (hg : ∀ r ∈ g, ∃ sent r', r.push ts (.ofTargets ts) = (.ok sent, r') ∧ Q r') :
    ∃ n g', g.pushTargets ts = (.ok n, g') ∧ g' ≠ [] ∧ ∀ r ∈ g', Q r := by
  have hanswers : ∀ r ∈ g, ∃ sent r', r.push ts (.ofTargets ts) = (.ok sent, r') ∧ True ∧ Q r' := by
    simpa only [true_and] using hg
  obtain ⟨found, g', heq, -, -, hne', hQ⟩ := fanOut_of_answers hne hanswers
  refine ⟨found.countP (·.2), g', ?_, hne', hQ⟩
  rw [pushTargets_eq_fanOut, heq]
  rfl

/-! ## Requests that may fail -/

theorem getElem?_broadcast (op : Request ρ α) {i : Nat} {r : Replica ρ} (hr : g[i]? = some r) :
    (g.broadcast op).2[i]? =
      some (if (g.broadcast op).1.isOk then (r.ask op).2 else (r.ask op).2.forget) := by
  rw [broadcast_eq_fanOut]
  exact getElem?_fanOut hr

theorem isOk_map {β : Type} (f : α → β) (x : Except RequestError α) : (x.map f).isOk = x.isOk := by
  cases x <;> rfl

theorem getElem?_pushTargets [Endpoint ρ] (ts : TargetsByJob) {i : Nat} {r : Replica ρ}
    (hr : g[i]? = some r) :
    (g.pushTargets ts).2[i]? =
      some (if (g.pushTargets ts).1.isOk then (r.push ts (.ofTargets ts)).2
        else (r.push ts (.ofTargets ts)).2.forget) := by
  rw [pushTargets_eq_fanOut, isOk_map]
  exact getElem?_fanOut hr

theorem broadcast_eq_ok {found : List (Nat × α)} {g' : ReplicaGroup ρ}
    (hasked : g.broadcast op = (.ok found, g')) :
    found ≠ [] ∧ found = successes ((g.map (Replica.ask op)).map (·.1)) ∧
      g' = (g.map (Replica.ask op)).map (·.2) := by
  rw [broadcast_eq_fanOut] at hasked
  rw [List.map_map, List.map_map]
  exact fanOut_eq_ok hasked

theorem read_eq_broadcast (op : Request ρ α) (better : α → α → Bool) (g : ReplicaGroup ρ) :
    (g.read op better).2 = (g.broadcast op).2 ∧
      (g.read op better).1.isOk = (g.broadcast op).1.isOk := by
  unfold read
  rcases hasked : g.broadcast op with ⟨_ | found, g'⟩
  · exact ⟨rfl, rfl⟩
  · have hvalues : found.map (·.2) ≠ [] := by simpa using (broadcast_eq_ok hasked).1
    obtain ⟨a, -, hbest⟩ := pickBest_mem better hvalues
    dsimp only
    rw [hbest]
    exact ⟨rfl, rfl⟩

theorem write_eq_broadcast (op : Request ρ Unit) (g : ReplicaGroup ρ) :
    (g.write op).2 = (g.broadcast op).2 ∧ (g.write op).1.isOk = (g.broadcast op).1.isOk := by
  unfold write
  rcases g.broadcast op with ⟨_ | _, _⟩ <;> exact ⟨rfl, rfl⟩

def SomeAnswers (op : Request ρ α) (g : ReplicaGroup ρ) : Prop :=
  ∃ r ∈ g, ∃ a, (op r.endpoint).1 = .ok a

theorem isOk_broadcast_iff : (g.broadcast op).1.isOk = true ↔ g.SomeAnswers op := by
  have hok : ∀ x : Except RequestError α, x.isOk = true ↔ ∃ a, x = .ok a := by
    rintro (_ | _) <;> simp [Except.isOk, Except.toBool]
  rw [broadcast_eq_fanOut, isOk_fanOut_iff]
  simp only [Replica.fst_ask, hok, SomeAnswers]

theorem endpoints_broadcast (op : Request ρ α) (g : ReplicaGroup ρ) :
    (g.broadcast op).2.map (·.endpoint) = g.map (fun r => (op r.endpoint).2) := by
  unfold broadcast
  split
  · rename_i hempty
    rw [List.isEmpty_iff.1 hempty]
    rfl
  · dsimp only
    split <;> simp [invalidate, Replica.forget, Replica.endpoint_ask]

theorem forall_broadcast (hask : ∀ r, P r → Q (r.ask op).2) (hforget : ∀ r, Q r → Q r.forget)
    (hg : ∀ r ∈ g, P r) : ∀ r ∈ (g.broadcast op).2, Q r := by
  rw [broadcast_eq_fanOut]
  exact forall_fanOut hask hforget hg

theorem forall_pushTargets [Endpoint ρ] {ts : TargetsByJob}
    (hpush : ∀ r, P r → Q (r.push ts (.ofTargets ts)).2) (hforget : ∀ r, Q r → Q r.forget)
    (hg : ∀ r ∈ g, P r) : ∀ r ∈ (g.pushTargets ts).2, Q r := by
  rw [pushTargets_eq_fanOut]
  exact forall_fanOut hpush hforget hg

/-! ## Comparing reports -/

theorem forall_observe (hobserve : ∀ r m, P r → P (r.observe m)) (hg : ∀ r ∈ g, P r) (i : Nat)
    (m : StatusMap) : ∀ r ∈ g.observe i m, P r := by
  intro r hr
  obtain ⟨k, hk⟩ := List.mem_iff_getElem?.1 hr
  rw [observe, List.getElem?_modify] at hk
  obtain ⟨r₀, hr₀, rfl⟩ := Option.map_eq_some_iff.1 hk
  have hP := hg r₀ (List.mem_of_getElem? hr₀)
  split
  · exact hobserve r₀ m hP
  · exact hP

theorem forall_observe_all (found : List (Nat × StatusMap))
    (hobserve : ∀ r m, P r → P (r.observe m)) (hne : g ≠ []) (hg : ∀ r ∈ g, P r) :
    found.foldl (fun g (i, m) => observe g i m) g ≠ [] ∧
      ∀ r ∈ found.foldl (fun g (i, m) => observe g i m) g, P r := by
  induction found generalizing g with
  | nil => exact ⟨hne, hg⟩
  | cons e found ih =>
      refine ih ?_ (forall_observe hobserve hg e.1 e.2)
      simpa [observe, ← List.length_eq_zero_iff] using hne

theorem endpoints_observe (g : ReplicaGroup ρ) (i : Nat) (m : StatusMap) :
    (g.observe i m).map (·.endpoint) = g.map (·.endpoint) := by
  refine List.ext_getElem? fun k => ?_
  simp only [observe, List.getElem?_map, List.getElem?_modify]
  cases g[k]? with
  | none => rfl
  | some r =>
      by_cases hik : i = k
      · simp [hik, (Replica.observe_cases m r).1]
      · simp [hik]

theorem endpoints_observe_all (found : List (Nat × StatusMap)) (g : ReplicaGroup ρ) :
    (found.foldl (fun g (i, m) => observe g i m) g).map (·.endpoint) = g.map (·.endpoint) := by
  induction found generalizing g with
  | nil => rfl
  | cons e found ih => rw [List.foldl_cons, ih, endpoints_observe]

/-- What is still remembered of a replica after reports are compared agrees with each of its
own. -/
theorem observe_all_cases (found : List (Nat × StatusMap)) {i : Nat} {r' : Replica ρ}
    (hr' : (found.foldl (fun g (j, m) => observe g j m) g)[i]? = some r') :
    ∃ r, g[i]? = some r ∧ r'.endpoint = r.endpoint ∧ ∀ keys, r'.applied = some keys →
      r.applied = some keys ∧ ∀ m, (i, m) ∈ found → keys = .ofStatuses m := by
  induction found generalizing g with
  | nil => exact ⟨r', hr', rfl, fun keys hkeys => ⟨hkeys, fun m hm => absurd hm List.not_mem_nil⟩⟩
  | cons e found ih =>
      obtain ⟨r₁, hr₁, hendpoint₁, hkeys₁⟩ := ih hr'
      simp only [observe, List.getElem?_modify] at hr₁
      obtain ⟨r, hr, rfl⟩ := Option.map_eq_some_iff.1 hr₁
      obtain ⟨hendpoint, hkeys⟩ := Replica.observe_cases e.2 r
      refine ⟨r, hr, hendpoint₁.trans ?_, fun keys happlied => ?_⟩
      · split
        · exact hendpoint
        · rfl
      · obtain ⟨happlied₁, hrest⟩ := hkeys₁ keys happlied
        by_cases hi : e.1 = i
        · simp only [hi, if_true] at happlied₁
          obtain ⟨hbefore, hthis⟩ := hkeys keys happlied₁
          refine ⟨hbefore, fun m hm => ?_⟩
          rcases List.mem_cons.1 hm with rfl | hm
          · exact hthis
          · exact hrest m hm
        · simp only [hi, if_false] at happlied₁
          refine ⟨happlied₁, fun m hm => ?_⟩
          rcases List.mem_cons.1 hm with rfl | hm
          · exact absurd rfl hi
          · exact hrest m hm

end ReplicaGroup

/-! ## Requests to a shard -/

namespace Shard

variable (s : Shard ρ) (r : Except RequestError α × ReplicaGroup ρ)

theorem fst_after : (s.after r).1 = r.1 := by
  unfold after
  split <;> rfl

theorem group_after : (s.after r).2.group = r.2 := by
  unfold after
  split <;> rfl

theorem id_after : (s.after r).2.id = s.id := by
  unfold after
  split <;> rfl

theorem ready_after : (s.after r).2.ready = s.ready := by
  unfold after
  split <;> rfl

theorem scraping_after {err : RequestError} (herror : (s.after r).1 = .error err) :
    (s.after r).2.scraping = ∅ := by
  rw [fst_after] at herror
  unfold after
  split
  · cases herror
  · rfl

variable [Endpoint ρ]

theorem isOk_runtime_iff : s.runtime.1.isOk = true ↔ s.group.SomeAnswers Endpoint.runtime := by
  rw [runtime, fst_after, (ReplicaGroup.read_eq_broadcast ..).2, ReplicaGroup.isOk_broadcast_iff]

theorem isOk_pushConfig_iff (raw : ByteArray) :
    (s.pushConfig raw).1.isOk = true ↔ s.group.SomeAnswers (Endpoint.pushConfig raw) := by
  rw [pushConfig, fst_after, (ReplicaGroup.write_eq_broadcast ..).2,
    ReplicaGroup.isOk_broadcast_iff]

theorem isOk_scrapeStatus_iff :
    s.scrapeStatus.1.isOk = true ↔ s.group.SomeAnswers Endpoint.scrapeStatus := by
  rw [← ReplicaGroup.isOk_broadcast_iff]
  unfold scrapeStatus
  rcases s.group.broadcast Endpoint.scrapeStatus with ⟨_ | _, _⟩ <;> rfl

theorem id_scrapeStatus : s.scrapeStatus.2.id = s.id := by
  unfold scrapeStatus
  split <;> rfl

theorem ready_scrapeStatus : s.scrapeStatus.2.ready = s.ready := by
  unfold scrapeStatus
  split <;> rfl

theorem scraping_scrapeStatus {err : RequestError} (herror : s.scrapeStatus.1 = .error err) :
    s.scrapeStatus.2.scraping = ∅ := by
  unfold scrapeStatus at herror ⊢
  split
  · rfl
  · rename_i hasked
    rw [hasked] at herror
    cases herror

end Shard

end ScrapeFleet
