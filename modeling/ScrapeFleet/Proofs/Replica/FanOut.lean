import Mathlib.Data.List.Induction
import Mathlib.Data.Int.Order.Basic
import Mathlib.Order.Defs.Unbundled
import Mathlib.Order.Lattice
import ScrapeFleet.Proofs.Replica.Requests
import ScrapeFleet.Replica.InMemory

/-!
# Any success counts

A request to all replicas succeeds if one of them answers, and an assignment if one of
them takes it or has it already.  Each replica is left as its own answer leaves it, the
answers come in the order of the replicas, and if there are none, the failure of the last
replica is reported.  Of several answers a read
returns the first of the best ones.
-/

namespace ScrapeFleet

variable {ρ α : Type}

namespace ReplicaGroup

/-! ## The best of several values -/

section Best

variable {better : α → α → Bool} {a b c : α}

theorem pickBest_append_singleton (values : List α) (x : α) :
    pickBest better (values ++ [x]) =
      some (match pickBest better values with
        | none => x
        | some b => if better x b then x else b) := by
  rw [pickBest, List.foldl_append, List.foldl_cons, List.foldl_nil, ← pickBest]
  cases pickBest better values with
  | none => rfl
  | some b => exact (apply_ite some ..).symm

theorem pickBest_cons (b : α) (l : List α) :
    pickBest better (b :: l) =
      some (l.foldl (fun best a => if better a best then a else best) b) := by
  induction l generalizing b with
  | nil => rfl
  | cons a l ih =>
      rw [List.foldl_cons, ← ih]
      simp only [pickBest, List.foldl_cons]
      split <;> rfl

theorem eq_nil_of_pickBest {values : List α} (h : pickBest better values = none) :
    values = [] := by
  by_contra hne
  obtain ⟨b, -, hb⟩ := pickBest_mem better hne
  cases h.symm.trans hb

variable [IsStrictWeakOrder α (fun a b => better a b = true)]

theorem not_better_of_better (hab : better a b = true) : better b a = false := by
  refine Bool.eq_false_iff.2 fun hba => ?_
  exact irrefl_of (fun a b => better a b = true) a
    (trans_of (fun a b => better a b = true) hab hba)

theorem better_of_not_better (hab : better a b = true) (hcb : better c b = false) :
    better a c = true := by
  by_contra hac
  by_cases hca : better c a = true
  · rw [trans_of (fun a b => better a b = true) hca hab] at hcb
    cases hcb
  by_cases hbc : better b c = true
  · exact hac (trans_of (fun a b => better a b = true) hab hbc)
  -- Otherwise `c` is as good as `a` and as good as `b`.
  · have hcb' : ¬better c b = true := Bool.eq_false_iff.1 hcb
    have hequal := @IsStrictWeakOrder.incomp_trans α (fun a b => better a b = true) _ a c b
      ⟨hac, hca⟩ ⟨hcb', hbc⟩
    exact hequal.1 hab

omit [IsStrictWeakOrder α (fun a b => better a b = true)] in
theorem isStrictWeakOrder_key {κ : Type} [LinearOrder κ] [DecidableLT κ] (key : α → κ) :
    IsStrictWeakOrder α (fun a b => decide (key b < key a) = true) where
  irrefl a h := lt_irrefl _ (of_decide_eq_true h)
  trans a b c hab hbc :=
    decide_eq_true (lt_trans (of_decide_eq_true hbc) (of_decide_eq_true hab))
  incomp_trans a b c hab hbc := by
    simp only [decide_eq_true_eq, not_lt] at hab hbc ⊢
    exact ⟨le_trans hab.1 hbc.1, le_trans hbc.2 hab.2⟩

/-- The value that is picked beats those before it, and none after it beats it. -/
theorem pickBest_eq_some {values : List α} (ha : pickBest better values = some a) :
    ∃ before after, values = before ++ a :: after ∧ (∀ b ∈ before, better a b = true) ∧
      ∀ b ∈ after, better b a = false := by
  induction values using List.reverseRecOn generalizing a with
  | nil => cases ha
  | append_singleton values x ih =>
      rw [pickBest_append_singleton, Option.some.injEq] at ha
      cases hbest : pickBest better values with
      | none =>
          rw [hbest] at ha
          exact ⟨[], [], by simp [eq_nil_of_pickBest hbest, ← ha], by simp, by simp⟩
      | some b =>
          obtain ⟨before, after, rfl, hbefore, hafter⟩ := ih hbest
          rw [hbest] at ha
          dsimp only at ha
          split at ha
          · rename_i hxb
            subst ha
            refine ⟨before ++ b :: after, [], rfl, fun c hc => ?_, by simp⟩
            rcases List.mem_append.1 hc with hc | hc
            · exact better_of_not_better hxb (not_better_of_better (hbefore c hc))
            · rcases List.mem_cons.1 hc with rfl | hc
              · exact hxb
              · exact better_of_not_better hxb (hafter c hc)
          · rename_i hxb
            subst ha
            refine ⟨before, after ++ [x], by simp, hbefore, fun c hc => ?_⟩
            rcases List.mem_append.1 hc with hc | hc
            · exact hafter c hc
            · rw [List.mem_singleton.1 hc]
              exact Bool.eq_false_iff.2 hxb

end Best

/-! ## Answers in order -/

theorem pairwise_successes (answers : List (Except RequestError α)) :
    (successes answers).Pairwise (fun x y => x.1 < y.1) := by
  have hnumbers : answers.zipIdx.Pairwise (fun x y => x.2 < y.2) := by
    rw [← List.pairwise_map, List.zipIdx_map_snd]
    exact List.pairwise_lt_range'
  refine hnumbers.filterMap _ ?_
  rintro ⟨x, i⟩ ⟨y, j⟩ hij ⟨i', a⟩ ha ⟨j', b⟩ hb
  cases x <;> cases y <;> cases ha <;> cases hb
  exact hij

theorem countP_successes (answers : List (Except RequestError Bool)) :
    (successes answers).countP (·.2) = answers.countP (fun a => a.toOption.getD false) := by
  rw [successes, List.countP_filterMap]
  calc answers.zipIdx.countP _
      = answers.zipIdx.countP (fun e => e.1.toOption.getD false) :=
        List.countP_congr fun e _ => by rcases e with ⟨_ | _, _⟩ <;> rfl
    _ = (answers.zipIdx.map Prod.fst).countP (fun a => a.toOption.getD false) := by
        rw [List.countP_map]
        rfl
    _ = answers.countP (fun a => a.toOption.getD false) := by rw [List.zipIdx_map_fst]

theorem lastError_append_error (before : List (Except RequestError α)) (e : RequestError) :
    lastError (before ++ [.error e]) = e.message := by
  rw [lastError, List.foldl_append, List.foldl_cons, List.foldl_nil]

/-! ## Failures and forgetting -/

section FanOut

variable {g : ReplicaGroup ρ} {f : Replica ρ → Except RequestError α × Replica ρ}

def AllFailed (answer : Replica ρ → Except RequestError α) (g : ReplicaGroup ρ)
    (err : RequestError) : Prop :=
  (∀ r ∈ g, (answer r).isOk = false) ∧
    ∃ r last, g.getLast? = some r ∧ answer r = .error last ∧
      err = .allReplicasFailed g.length last.message

theorem AllFailed.imp {β : Type} {answer : Replica ρ → Except RequestError α}
    {answer' : Replica ρ → Except RequestError β} {err : RequestError}
    (h : AllFailed answer g err) (himp : ∀ r e, answer r = .error e → answer' r = .error e) :
    AllFailed answer' g err := by
  obtain ⟨hall, r, last, hlast, hr, herr⟩ := h
  refine ⟨fun r hr => ?_, r, last, hlast, himp r last hr, herr⟩
  cases hanswer : answer r with
  | ok a =>
      have hfailed := hall r hr
      rw [hanswer] at hfailed
      cases hfailed
  | error e =>
      rw [himp r e hanswer]
      rfl

theorem allFailed_of_forall (hne : g ≠ []) {answer : Replica ρ → Except RequestError α}
    (hfailed : ∀ r ∈ g, (answer r).isOk = false) :
    AllFailed answer g (allFailed (g.map answer)) := by
  obtain ⟨before, r, rfl⟩ := (List.eq_nil_or_concat' g).resolve_left hne
  refine ⟨hfailed, r, ?_⟩
  cases hr : answer r with
  | ok a =>
      have h := hfailed r (by simp)
      rw [hr] at h
      cases h
  | error e => exact ⟨e, by simp, rfl, by simp [allFailed, hr, lastError_append_error]⟩

/-- Each replica is left as its own answer leaves it; if all fail, nothing is left to forget. -/
theorem snd_fanOut (hf : ∀ r, (f r).1.isOk = false → (f r).2.applied = none) :
    (g.fanOut f).2 = g.map (fun r => (f r).2) := by
  unfold fanOut
  split
  · rename_i hempty
    rw [List.isEmpty_iff.1 hempty]
    rfl
  · split
    · rename_i hnone
      rw [invalidate, List.map_map]
      refine List.map_congr_left fun r hr => ?_
      have hforgotten := hf r (successes_eq_nil_iff.1 hnone _ (List.mem_map_of_mem hr))
      rw [Function.comp_apply, Replica.forget, ← hforgotten]
    · rfl

theorem successes_of_fanOut {found : List (Nat × α)} (h : (g.fanOut f).1 = .ok found) :
    found = successes (g.map (fun r => (f r).1)) :=
  (fanOut_eq_ok (Prod.ext h rfl)).2.1

theorem allFailed_of_fanOut (hne : g ≠ []) {err : RequestError}
    (h : (g.fanOut f).1 = .error err) : AllFailed (fun r => (f r).1) g err := by
  rw [fst_fanOut hne] at h
  split at h
  · rename_i hnone
    rw [← Except.error.inj h]
    exact allFailed_of_forall hne fun r hr => successes_eq_nil_iff.1 hnone _ (List.mem_map_of_mem hr)
  · cases h

end FanOut

/-! ## Requests -/

section Requests

variable {op : Request ρ α} {g : ReplicaGroup ρ}

def AnswersWith (op : Request ρ α) (g : ReplicaGroup ρ) (i : Nat) (a : α) : Prop :=
  ∃ r, g[i]? = some r ∧ (op r.endpoint).1 = .ok a

theorem answersWith_iff {i : Nat} {a : α} :
    g.AnswersWith op i a ↔ g[i]?.bind (fun r => (op r.endpoint).1.toOption) = some a := by
  have hok : ∀ x : Except RequestError α, x.toOption = some a ↔ x = .ok a := by
    rintro (_ | _) <;> simp [Except.toOption]
  simp only [AnswersWith, Option.bind_eq_some_iff, hok]

instance [DecidableEq α] (i : Nat) (a : α) : Decidable (g.AnswersWith op i a) :=
  decidable_of_iff _ answersWith_iff.symm

/-- What asking all replicas comes to. -/
structure Broadcasts (op : Request ρ α) (g : ReplicaGroup ρ) : Prop where
  isOk_iff : (g.broadcast op).1.isOk = true ↔ g.SomeAnswers op
  answers : ∀ found, (g.broadcast op).1 = .ok found →
    found.Pairwise (fun x y => x.1 < y.1) ∧ ∀ i a, (i, a) ∈ found ↔ g.AnswersWith op i a
  error : ∀ err, (g.broadcast op).1 = .error err →
    AllFailed (fun r => (op r.endpoint).1) g err ∧ ∀ r ∈ (g.broadcast op).2, r.applied = none
  remembers : ∀ (i : Nat) (r : Replica ρ), g[i]? = some r →
    ∃ r' : Replica ρ, (g.broadcast op).2[i]? = some r' ∧ r'.endpoint = (op r.endpoint).2 ∧
      r'.applied = if (op r.endpoint).1.isOk then r.applied else none

theorem applied_ask (op : Request ρ α) (r : Replica ρ) :
    (r.ask op).2.applied = if (op r.endpoint).1.isOk then r.applied else none := by
  unfold Replica.ask
  rcases op r.endpoint with ⟨_ | _, _⟩ <;> rfl

theorem snd_broadcast (op : Request ρ α) (g : ReplicaGroup ρ) :
    (g.broadcast op).2 = g.map (fun r => (r.ask op).2) := by
  rw [broadcast_eq_fanOut]
  refine snd_fanOut fun r hfailed => ?_
  rw [Replica.fst_ask] at hfailed
  rw [applied_ask, hfailed]
  rfl

theorem mem_broadcast_iff {found : List (Nat × α)} (h : (g.broadcast op).1 = .ok found) {i : Nat}
    {a : α} : (i, a) ∈ found ↔ g.AnswersWith op i a := by
  rw [broadcast_eq_fanOut] at h
  rw [successes_of_fanOut h, mem_successes, List.getElem?_map, Option.map_eq_some_iff]
  simp only [Replica.fst_ask, AnswersWith]

theorem pairwise_broadcast {found : List (Nat × α)} (h : (g.broadcast op).1 = .ok found) :
    found.Pairwise (fun x y => x.1 < y.1) := by
  rw [broadcast_eq_fanOut] at h
  rw [successes_of_fanOut h]
  exact pairwise_successes _

theorem broadcasts (op : Request ρ α) (hne : g ≠ []) : Broadcasts op g where
  isOk_iff := isOk_broadcast_iff
  answers found h := ⟨pairwise_broadcast h, fun i a => mem_broadcast_iff h⟩
  error err h := by
    rw [broadcast_eq_fanOut] at h
    have hfailed := allFailed_of_fanOut hne h
    simp only [Replica.fst_ask] at hfailed
    refine ⟨hfailed, fun r' hr' => ?_⟩
    rw [snd_broadcast] at hr'
    obtain ⟨r, hr, rfl⟩ := List.mem_map.1 hr'
    rw [applied_ask, hfailed.1 r hr]
    rfl
  remembers i r hr := by
    refine ⟨(r.ask op).2, ?_, Replica.endpoint_ask op r, applied_ask op r⟩
    rw [snd_broadcast, List.getElem?_map, hr, Option.map_some]

/-- The answer `a` of replica `i` is the first of the best ones. -/
structure Leads (op : Request ρ α) (better : α → α → Bool) (g : ReplicaGroup ρ) (i : Nat)
    (a : α) : Prop where
  answers : g.AnswersWith op i a
  unbeaten : ∀ j b, g.AnswersWith op j b → better b a = false
  first : ∀ j b, g.AnswersWith op j b → j < i → better a b = true

structure Reads (op : Request ρ α) (better : α → α → Bool) (g : ReplicaGroup ρ) : Prop where
  isOk_iff : (g.read op better).1.isOk = true ↔ g.SomeAnswers op
  leads : ∀ a, (g.read op better).1 = .ok a → ∃ i, g.Leads op better i a
  error : ∀ err, (g.read op better).1 = .error err → AllFailed (fun r => (op r.endpoint).1) g err
  remembers : (g.read op better).2 = (g.broadcast op).2

section Better

variable {better : α → α → Bool} [IsStrictWeakOrder α (fun a b => better a b = true)]

theorem exists_leads {found : List (Nat × α)} {a : α} (h : (g.broadcast op).1 = .ok found)
    (ha : pickBest better (found.map (·.2)) = some a) : ∃ i, g.Leads op better i a := by
  obtain ⟨before, after, hsplit, hbefore, hafter⟩ := pickBest_eq_some ha
  obtain ⟨earlier, rest, rfl, rfl, hrest⟩ := List.map_eq_append_iff.1 hsplit
  obtain ⟨⟨i, a'⟩, later, rfl, rfl, rfl⟩ := List.map_eq_cons_iff.1 hrest
  have hirrefl : better a' a' = false :=
    Bool.eq_false_iff.2 (irrefl_of (fun a b => better a b = true) a')
  have horder := List.pairwise_append.1 (pairwise_broadcast h)
  refine ⟨i, (mem_broadcast_iff h).1 (by simp), fun j b hb => ?_, fun j b hb hlt => ?_⟩
  · rcases List.mem_append.1 ((mem_broadcast_iff h).2 hb) with hmem | hmem
    · exact not_better_of_better (hbefore b (List.mem_map_of_mem hmem))
    · rcases List.mem_cons.1 hmem with heq | hmem
      · rw [(Prod.mk.inj heq).2, hirrefl]
      · exact hafter b (List.mem_map_of_mem hmem)
  · rcases List.mem_append.1 ((mem_broadcast_iff h).2 hb) with hmem | hmem
    · exact hbefore b (List.mem_map_of_mem hmem)
    -- What comes after the leading answer has a greater number.
    · rcases List.mem_cons.1 hmem with heq | hmem
      · exact absurd (Prod.mk.inj heq).1 (by omega)
      · have hle := List.rel_of_pairwise_cons horder.2.1 hmem
        dsimp only at hle
        omega

theorem leads_of_read {a : α} (h : (g.read op better).1 = .ok a) : ∃ i, g.Leads op better i a := by
  unfold read at h
  rcases hasked : g.broadcast op with ⟨_ | found, g'⟩
  · rw [hasked] at h
    cases h
  · rw [hasked] at h
    dsimp only at h
    split at h
    · cases h
    · rename_i hbest
      obtain rfl := Except.ok.inj h
      exact exists_leads (congrArg Prod.fst hasked) hbest

end Better

theorem error_of_read {better : α → α → Bool} {err : RequestError}
    (h : (g.read op better).1 = .error err) : (g.broadcast op).1 = .error err := by
  have hok := (read_eq_broadcast op better g).2
  unfold read at h hok
  rcases hasked : g.broadcast op with ⟨_ | found, g'⟩
  · rw [hasked] at h
    cases h
    rfl
  · rw [hasked] at h hok
    rw [h] at hok
    cases hok

theorem reads (op : Request ρ α) (better : α → α → Bool)
    [IsStrictWeakOrder α (fun a b => better a b = true)] (hne : g ≠ []) : Reads op better g where
  isOk_iff := by rw [(read_eq_broadcast op better g).2, isOk_broadcast_iff]
  leads _ h := leads_of_read h
  error err h := ((broadcasts op hne).error err (error_of_read h)).1
  remembers := (read_eq_broadcast op better g).1

end Requests

end ReplicaGroup

/-! ## Assignments -/

namespace Replica

variable [Endpoint ρ] (ts : TargetsByJob) (r : Replica ρ)

def has (r : Replica ρ) : Bool := r.applied = some (.ofTargets ts)

def accepts : Bool := (Endpoint.pushTargets ts r.endpoint).1.isOk

theorem push_of_has (h : r.has ts = true) : r.push ts (.ofTargets ts) = (.ok false, r) :=
  if_pos (of_decide_eq_true h)

theorem push_of_not_has (h : r.has ts = false) :
    r.push ts (.ofTargets ts) =
      ((Endpoint.pushTargets ts r.endpoint).1.map (fun _ => true),
        { endpoint := (Endpoint.pushTargets ts r.endpoint).2
          applied := if r.accepts ts then some (.ofTargets ts) else none }) := by
  unfold Replica.push
  rw [if_neg (of_decide_eq_false h), accepts]
  rcases Endpoint.pushTargets ts r.endpoint with ⟨_ | _, _⟩ <;> rfl

theorem isOk_push : (r.push ts (.ofTargets ts)).1.isOk = (r.has ts || r.accepts ts) := by
  cases h : r.has ts with
  | true => rw [push_of_has ts r h]; rfl
  | false =>
      rw [push_of_not_has ts r h, accepts]
      cases (Endpoint.pushTargets ts r.endpoint).1 <;> rfl

theorem written_push :
    (r.push ts (.ofTargets ts)).1.toOption.getD false = (!r.has ts && r.accepts ts) := by
  cases h : r.has ts with
  | true => rw [push_of_has ts r h]; rfl
  | false =>
      rw [push_of_not_has ts r h, accepts]
      cases (Endpoint.pushTargets ts r.endpoint).1 <;> rfl

theorem error_of_push {e : RequestError} (h : (r.push ts (.ofTargets ts)).1 = .error e) :
    (Endpoint.pushTargets ts r.endpoint).1 = .error e := by
  cases hhas : r.has ts with
  | true =>
      rw [push_of_has ts r hhas] at h
      cases h
  | false =>
      rw [push_of_not_has ts r hhas] at h
      cases hsent : (Endpoint.pushTargets ts r.endpoint).1 with
      | ok =>
          rw [hsent] at h
          cases h
      | error e' =>
          rw [hsent] at h
          rw [Except.error.inj h]

theorem endpoint_push :
    (r.push ts (.ofTargets ts)).2.endpoint =
      if r.has ts then r.endpoint else (Endpoint.pushTargets ts r.endpoint).2 := by
  cases h : r.has ts with
  | true => rw [push_of_has ts r h]; rfl
  | false => rw [push_of_not_has ts r h]; rfl

theorem applied_push :
    (r.push ts (.ofTargets ts)).2.applied =
      if r.has ts || r.accepts ts then some (.ofTargets ts) else none := by
  cases h : r.has ts with
  | true => rw [push_of_has ts r h]; exact of_decide_eq_true h
  | false => rw [push_of_not_has ts r h]; rfl

end Replica

namespace ReplicaGroup

variable [Endpoint ρ] {g : ReplicaGroup ρ} {ts : TargetsByJob}

structure Pushes (ts : TargetsByJob) (g : ReplicaGroup ρ) : Prop where
  isOk_iff : (g.pushTargets ts).1.isOk = true ↔ ∃ r ∈ g, r.has ts = true ∨ r.accepts ts = true
  written : ∀ n, (g.pushTargets ts).1 = .ok n → n = g.countP (fun r => !r.has ts && r.accepts ts)
  error : ∀ err, (g.pushTargets ts).1 = .error err →
    AllFailed (fun r => (Endpoint.pushTargets ts r.endpoint).1) g err ∧
      ∀ r ∈ (g.pushTargets ts).2, r.applied = none
  /-- A replica that is known to have the assignment is not asked. -/
  remembers : ∀ (i : Nat) (r : Replica ρ), g[i]? = some r →
    ∃ r' : Replica ρ, (g.pushTargets ts).2[i]? = some r' ∧
      r'.endpoint = (if r.has ts then r.endpoint else (Endpoint.pushTargets ts r.endpoint).2) ∧
      r'.applied = if r.has ts || r.accepts ts then some (.ofTargets ts) else none

theorem snd_pushTargets (ts : TargetsByJob) (g : ReplicaGroup ρ) :
    (g.pushTargets ts).2 = g.map (fun r => (r.push ts (.ofTargets ts)).2) := by
  rw [pushTargets_eq_fanOut]
  refine snd_fanOut fun r hfailed => ?_
  rw [Replica.isOk_push] at hfailed
  rw [Replica.applied_push, hfailed]
  rfl

theorem isOk_pushTargets_iff :
    (g.pushTargets ts).1.isOk = true ↔ ∃ r ∈ g, r.has ts = true ∨ r.accepts ts = true := by
  rw [pushTargets_eq_fanOut, isOk_map, isOk_fanOut_iff]
  simp only [Replica.isOk_push, Bool.or_eq_true]

theorem pushTargets_eq_ok {n : Nat} (h : (g.pushTargets ts).1 = .ok n) :
    n = g.countP (fun r => !r.has ts && r.accepts ts) := by
  rw [pushTargets_eq_fanOut] at h
  cases hfound : (g.fanOut (Replica.push ts (.ofTargets ts))).1 with
  | error e =>
      rw [hfound] at h
      cases h
  | ok found =>
      rw [hfound] at h
      obtain rfl := Except.ok.inj h
      dsimp only
      rw [successes_of_fanOut hfound, countP_successes, List.countP_map]
      exact List.countP_congr fun r _ => by rw [Function.comp_apply, Replica.written_push]

/-- If an assignment fails, no replica was known to have it, and none accepted it. -/
theorem allFailed_of_pushTargets (hne : g ≠ []) {err : RequestError}
    (h : (g.pushTargets ts).1 = .error err) :
    AllFailed (fun r => (Endpoint.pushTargets ts r.endpoint).1) g err := by
  rw [pushTargets_eq_fanOut] at h
  cases hfound : (g.fanOut (Replica.push ts (.ofTargets ts))).1 with
  | ok found =>
      rw [hfound] at h
      cases h
  | error e =>
      rw [hfound] at h
      obtain rfl := Except.error.inj h
      exact (allFailed_of_fanOut hne hfound).imp fun r e => Replica.error_of_push ts r

theorem pushes (ts : TargetsByJob) (hne : g ≠ []) : Pushes ts g where
  isOk_iff := isOk_pushTargets_iff
  written _ h := pushTargets_eq_ok h
  error err h := by
    refine ⟨allFailed_of_pushTargets hne h, fun r' hr' => ?_⟩
    have hfailed : ¬∃ r ∈ g, r.has ts = true ∨ r.accepts ts = true := by
      rw [← isOk_pushTargets_iff, h]
      exact Bool.false_ne_true
    rw [snd_pushTargets] at hr'
    obtain ⟨r, hr, rfl⟩ := List.mem_map.1 hr'
    rw [Replica.applied_push, if_neg]
    rw [Bool.or_eq_true]
    exact fun htaken => hfailed ⟨r, hr, htaken⟩
  remembers i r hr := by
    refine ⟨(r.push ts (.ofTargets ts)).2, ?_, Replica.endpoint_push ts r, Replica.applied_push ts r⟩
    rw [snd_pushTargets, List.getElem?_map, hr, Option.map_some]

/-- Any success suffices: for a request to all replicas, for a read that picks the best answer,
and for an assignment. -/
theorem anySuccess_suffices (op : Request ρ α) (ts : TargetsByJob) (hne : g ≠ []) :
    Broadcasts op g ∧ Pushes ts g ∧
      ∀ better : α → α → Bool, IsStrictWeakOrder α (fun a b => better a b = true) →
        Reads op better g :=
  ⟨broadcasts op hne, pushes ts hne, fun better _ => reads op better hne⟩

def partlySilent : ReplicaGroup InMemory :=
  [{ endpoint := { address := "a", schedule := fun _ => .always .timeout }
     applied := some (.ofTargets ∅) },
    { endpoint := { address := "b", runtime := { headSeries := 5 } }
      applied := some (.ofTargets ∅) },
    { endpoint := { address := "c", runtime := { headSeries := 9 } } }]

theorem anySuccess_suffices_of_partlySilent :
    let better := fun a b : Runtime => decide (b.headSeries < a.headSeries)
    partlySilent ≠ [] ∧ IsStrictWeakOrder Runtime (fun a b => better a b = true) ∧
      (∃ i, partlySilent.Leads Endpoint.runtime better i { headSeries := 9 }) ∧
      (partlySilent.pushTargets ∅).1 = .ok 1 := by
  intro better
  have hne : partlySilent ≠ [] := List.cons_ne_nil _ _
  have horder : IsStrictWeakOrder Runtime (fun a b => better a b = true) :=
    isStrictWeakOrder_key Runtime.headSeries
  obtain ⟨-, hpushes, hreads⟩ := anySuccess_suffices Endpoint.runtime ∅ hne
  refine ⟨hne, horder, (hreads better horder).leads _ (by rfl), ?_⟩
  have hok : (partlySilent.pushTargets ∅).1.isOk = true :=
    hpushes.isOk_iff.2 ⟨_, List.mem_cons_self, .inl (by decide)⟩
  cases hpushed : (partlySilent.pushTargets ∅).1 with
  | error e =>
      rw [hpushed] at hok
      cases hok
  | ok n => rw [hpushes.written n hpushed]; rfl

end ReplicaGroup

end ScrapeFleet
