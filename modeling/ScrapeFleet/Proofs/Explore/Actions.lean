import Mathlib.Data.List.Count
import ScrapeFleet.Proofs.Explore.Updates

/-!
# What can happen to an explorer

Questions and new targets come from outside, workers and timers hold tokens and bring them
back, and in the end they are told to stop.  To a single target only a few things can
happen in this way.  They are listed here once, and what holds of an explorer throughout
is proved of them.
-/

namespace ScrapeFleet

namespace Explorer

variable {e e' : Explorer} {k : Token} {x : ExploredTarget}

/-! ## Tokens in circulation -/

/-- The number of samples of a target that are queued, being taken, or to be tried again. -/
def outstanding (e : Explorer) (k : Token) : Nat :=
  e.queue.count k + e.sampling.count k + e.waiting.count k

theorem outstanding_pos_iff :
    0 < e.outstanding k ↔ k ∈ e.queue ∨ k ∈ e.sampling ∨ k ∈ e.waiting := by
  simp only [outstanding, ← List.count_pos_iff]
  omega

theorem entry?_put (e : Explorer) (k : Token) (x : ExploredTarget) (k' : Token) :
    entry? (e.put k x) k' = if k' = k then some x else e.entry? k' := by
  obtain ⟨job, h⟩ := k
  obtain ⟨job', h'⟩ := k'
  simp only [put, entry?, SortedMap.alter, SortedMap.get?_insert, Prod.mk.injEq]
  by_cases hjob : job' = job
  · subst hjob
    by_cases hh : h' = h
    · simp [hh, SortedMap.get?_insert]
    · cases hentries : e.jobs.get? job' with
      | none => simp [hh, SortedMap.get?_insert, SortedMap.get?_empty]
      | some entries => simp [hh, SortedMap.get?_insert]
  · simp [hjob]

theorem outstanding_put (e : Explorer) (k : Token) (x : ExploredTarget) :
    (e.put k x).outstanding = e.outstanding := rfl

theorem entry?_enqueue (e : Explorer) (k : Token) : entry? (e.enqueue k).2 = e.entry? := by
  unfold enqueue
  split <;> rfl

theorem outstanding_enqueue (e : Explorer) (k k' : Token) :
    (e.enqueue k).2.outstanding k' =
      e.outstanding k' + if k' = k then (e.enqueue k).1.toNat else 0 := by
  unfold enqueue outstanding
  split
  · have hcount : (e.queue ++ [k]).count k' = e.queue.count k' + if k' = k then 1 else 0 := by
      by_cases hk : k' = k
      · simp [hk]
      · simp [hk, Ne.symm hk]
    simp only [hcount, Bool.toNat_true]
    omega
  · simp

/-- An entry is stored, and with it the token that it says is on its way. -/
structure Puts (k : Token) (x : ExploredTarget) (e e' : Explorer) : Prop where
  entry : ∀ k', e'.entry? k' = if k' = k then some x else e.entry? k'
  tokens : ∀ k', e'.outstanding k' = e.outstanding k' + if k' = k then x.queued.toNat else 0

theorem puts_enqueue (e : Explorer) (k : Token) (x : ExploredTarget) :
    Puts k { x with queued := (e.enqueue k).1 } e
      (put (e.enqueue k).2 k { x with queued := (e.enqueue k).1 }) where
  entry k' := by rw [entry?_put, entry?_enqueue]
  tokens k' := by rw [outstanding_put, outstanding_enqueue]

theorem request_puts (e : Explorer) (k : Token) (x : ExploredTarget) :
    ∃ queued : Bool, (queued = true → x.samples < maxSamples) ∧
      Puts k { x with queued } e (e.request k x) := by
  unfold request
  split
  · rename_i hmissing
    exact ⟨(e.enqueue k).1, fun _ => hmissing, e.puts_enqueue k x⟩
  · refine ⟨false, fun hqueued => absurd hqueued Bool.false_ne_true, ?_, ?_⟩
    · exact fun k' => e.entry?_put k _ k'
    · intro k'
      rw [outstanding_put, Bool.toNat_false, ite_self, Nat.add_zero]

theorem fail_puts (e : Explorer) (k : Token) (startedMs durationMs : Nat) (message : String)
    (x : ExploredTarget) :
    Puts k { x with status := x.status.record startedMs durationMs (.error message), queued := true }
      e (e.fail k startedMs durationMs message x) where
  entry k' := entry?_put (e.count k.1 _) k _ k'
  tokens k' := by
    by_cases hk : k' = k
    · simp only [fail, outstanding, put, count, hk, List.count_cons_self, if_true, Bool.toNat_true]
      omega
    · simp [fail, outstanding, put, count, hk, Ne.symm hk]

theorem updateTargets_cases {active : TargetsByJob}
    (hx : entry? (e.updateTargets active) k = some x) :
    e.entry? k = some x ∨ ∃ t, x = { target := t } :=
  (entry?_updateTargets_cases hx).imp_left And.right

theorem entry?_retainJobs (e : Explorer) (keep : String → Bool) (k : Token) :
    entry? (e.retainJobs keep) k = if keep k.1 then e.entry? k else none := by
  unfold entry?
  rw [retainJobs, SortedMap.get?_filter]
  cases e.jobs.get? k.1 <;> cases keep k.1 <;> simp [Option.filter]

theorem count_erase_add {l : List Token} (hk : k ∈ l) (k' : Token) :
    l.count k' = (l.erase k).count k' + if k' = k then 1 else 0 := by
  have hpos := List.count_pos_iff.2 hk
  by_cases hkk : k' = k
  · subst hkk
    rw [List.count_erase_self, if_pos rfl]
    omega
  · rw [List.count_erase_of_ne hkk, if_neg hkk, Nat.add_zero]

/-! ## Actions -/

/-- A worker takes the first token out of the queue, and looks at its target later. -/
def take (e : Explorer) : Explorer :=
  match e.queue with
  | [] => e
  | k :: rest => { e with queue := rest, sampling := k :: e.sampling }

theorem entry?_take (e : Explorer) : e.take.entry? = e.entry? := by
  unfold take
  split <;> rfl

theorem outstanding_take (e : Explorer) (k : Token) : e.take.outstanding k = e.outstanding k := by
  unfold take
  split
  · rfl
  · rename_i k' rest hqueue
    simp only [outstanding, hqueue, List.count_cons]
    omega

inductive Action where
  | get (job : String) (t : Target)
  | updateTargets (active : TargetsByJob)
  | retainJobs (keep : String → Bool)
  | take
  | dequeue
  | drop (k : Token)
  | finish (k : Token) (startedMs durationMs : Nat) (outcome : Except String Int)
  | retry (k : Token)
  /-- Of the tokens that wait only these go on. -/
  | cancel (waiting : List Token)

namespace Action

def run (e : Explorer) : Action → Explorer
  | .get job t => (e.get job t).2
  | .updateTargets active => e.updateTargets active
  | .retainJobs keep => e.retainJobs keep
  | .take => e.take
  | .dequeue => e.dequeue.2
  | .drop k => { e with sampling := e.sampling.erase k }
  | .finish k startedMs durationMs outcome => e.finish k startedMs durationMs outcome
  | .retry k => e.retry k
  | .cancel waiting => { e with waiting }

/-- Workers and timers bring back only the tokens that they hold. -/
def Possible (e : Explorer) : Action → Prop
  | .drop k => k ∈ e.sampling
  | .finish k _ _ _ => k ∈ e.sampling
  | .retry k => k ∈ e.waiting
  | .cancel waiting => waiting.Sublist e.waiting
  | _ => True

def stops : Action → Bool
  | .drop _ => true
  | .cancel _ => true
  | _ => false

end Action

/-! ## What can happen to one target -/

/-- What there is of one target: its entry, the number of its tokens, and how many there were of
these when the entry was made. -/
structure View where
  entry : Option ExploredTarget
  tokens : Nat
  found : Nat

def view (e : Explorer) (found : Token → Nat) (k : Token) : View :=
  ⟨e.entry? k, e.outstanding k, found k⟩

/-- How many tokens the entries have found that are there after an action. -/
def Action.found (e : Explorer) (found : Token → Nat) : Action → Token → Nat
  | .get job t => fun k =>
    if k = (job, t.hash) ∧ e.entry? k = none then e.outstanding k else found k
  | .updateTargets active => fun k =>
    if entry? (e.updateTargets active) k = e.entry? k then found k else e.outstanding k
  | _ => found

inductive Change : View → View → Prop
  | keep {v : View} : Change v v
  | forget {y : Option ExploredTarget} {n l l' : Nat} : Change ⟨y, n, l⟩ ⟨none, n, l'⟩
  | make {y : Option ExploredTarget} {n l : Nat} (t : Target) (queued : Bool) :
      Change ⟨y, n, l⟩ ⟨some { target := t, queued }, n + queued.toNat, n⟩
  | ask {x : ExploredTarget} {n l : Nat} (queued : Bool) : x.queued = false →
      x.samples < maxSamples →
      Change ⟨some x, n, l⟩ ⟨some { x with queued }, n + queued.toNat, l⟩
  | lapse {n l : Nat} : Change ⟨none, n + 1, l⟩ ⟨none, n, l⟩
  | succeed {x y : ExploredTarget} {n l : Nat} : y.samples = x.samples + 1 →
      (y.queued = true → y.samples < maxSamples) →
      Change ⟨some x, n + 1, l⟩ ⟨some y, n + y.queued.toNat, l⟩
  | again {x y : ExploredTarget} {n l : Nat} : y.samples = x.samples →
      Change ⟨some x, n + 1, l⟩ ⟨some y, n + y.queued.toNat, l⟩

variable {found : Token → Nat}

theorem Change.of_eq {found' : Token → Nat} (hentry : e'.entry? k = e.entry? k)
    (htokens : e'.outstanding k = e.outstanding k) (hfound : found' k = found k) :
    Change (e.view found k) (e'.view found' k) := by
  rw [view, view, hentry, htokens, hfound]
  exact .keep

theorem Puts.view_eq (hputs : Puts k x e e') (found : Token → Nat) :
    e'.view found k = ⟨some x, e.outstanding k + x.queued.toNat, found k⟩ := by
  rw [view, hputs.entry, hputs.tokens, if_pos rfl, if_pos rfl]

theorem Puts.change {found' : Token → Nat} {k₀ : Token} (hputs : Puts k₀ x e e')
    (hfound : ∀ k ≠ k₀, found' k = found k)
    (hk₀ : Change (e.view found k₀) ⟨some x, e.outstanding k₀ + x.queued.toNat, found' k₀⟩)
    (k : Token) : Change (e.view found k) (e'.view found' k) := by
  by_cases hk : k = k₀
  · subst hk
    rwa [hputs.view_eq]
  · exact .of_eq ((hputs.entry k).trans (if_neg hk))
      (by rw [hputs.tokens, if_neg hk, Nat.add_zero]) (hfound k hk)

theorem change_get (e : Explorer) (found : Token → Nat) (job : String) (t : Target) :
    ∀ k, Change (e.view found k) ((e.get job t).2.view (Action.found e found (.get job t)) k) := by
  have hothers : ∀ k ≠ (job, t.hash), Action.found e found (.get job t) k = found k :=
    fun k hk => if_neg fun h => hk h.1
  unfold Explorer.get
  dsimp only
  cases hentry : e.entry? (job, t.hash) with
  | none =>
      obtain ⟨queued, -, hputs⟩ := e.request_puts (job, t.hash) { target := t }
      have hfound : Action.found e found (.get job t) (job, t.hash) = e.outstanding (job, t.hash) :=
        if_pos ⟨rfl, hentry⟩
      refine hputs.change hothers ?_
      rw [hfound]
      exact .make t queued
  | some x =>
      have hfound : Action.found e found (.get job t) (job, t.hash) = found (job, t.hash) :=
        if_neg fun h => by simp [hentry] at h
      have hkeep : ∀ k, Change (e.view found k) (e.view (Action.found e found (.get job t)) k) := by
        intro k
        refine .of_eq rfl rfl ?_
        by_cases hk : k = (job, t.hash)
        · rw [hk, hfound]
        · exact hothers k hk
      dsimp only
      split
      · exact hkeep
      · rename_i hqueued
        split
        · rename_i hmissing
          obtain ⟨queued, -, hputs⟩ := e.request_puts (job, t.hash) x
          refine hputs.change hothers ?_
          rw [view, hentry, hfound]
          exact .ask queued (Bool.eq_false_iff.2 hqueued) hmissing
        · exact hkeep

theorem change_updateTargets (e : Explorer) (found : Token → Nat) (active : TargetsByJob)
    (k : Token) :
    Change (e.view found k)
      ((e.updateTargets active).view (Action.found e found (.updateTargets active)) k) := by
  by_cases hsame : entry? (e.updateTargets active) k = e.entry? k
  · exact .of_eq hsame rfl (if_pos hsame)
  · have hfound : Action.found e found (.updateTargets active) k = e.outstanding k := if_neg hsame
    have htokens : (e.updateTargets active).outstanding k = e.outstanding k := rfl
    rw [view, view, htokens, hfound]
    cases hx : entry? (e.updateTargets active) k with
    | none => exact .forget
    | some x =>
        rcases updateTargets_cases hx with hold | ⟨t, rfl⟩
        · exact absurd (hx.trans hold.symm) hsame
        · exact .make t false

theorem change_retainJobs (e : Explorer) (found : Token → Nat) (keep : String → Bool) (k : Token) :
    Change (e.view found k) ((e.retainJobs keep).view found k) := by
  have htokens : (e.retainJobs keep).outstanding k = e.outstanding k := rfl
  rw [view, view, htokens, entry?_retainJobs]
  split
  · exact .keep
  · exact .forget

/-! ### Tokens that are used up -/

structure Frees (k : Token) (e freed : Explorer) : Prop where
  entry : freed.entry? = e.entry?
  tokens : ∀ k', e.outstanding k' = freed.outstanding k' + if k' = k then 1 else 0

variable {freed : Explorer} {k₀ : Token}

theorem frees_queue {rest : List Token} (hqueue : e.queue = k :: rest) :
    Frees k e { e with queue := rest } where
  entry := rfl
  tokens k' := by
    by_cases hk : k' = k
    · simp only [outstanding, hqueue, hk, List.count_cons_self, if_true]
      omega
    · simp [outstanding, hqueue, hk, Ne.symm hk]

theorem frees_sampling (hk : k ∈ e.sampling) :
    Frees k e { e with sampling := e.sampling.erase k } where
  entry := rfl
  tokens k' := by
    have hcount := count_erase_add hk k'
    simp only [outstanding]
    omega

theorem frees_waiting (hk : k ∈ e.waiting) :
    Frees k e { e with waiting := e.waiting.erase k } where
  entry := rfl
  tokens k' := by
    have hcount := count_erase_add hk k'
    simp only [outstanding]
    omega

theorem Frees.view_eq (hfrees : Frees k e freed) (found : Token → Nat) :
    e.view found k = ⟨freed.entry? k, freed.outstanding k + 1, found k⟩ := by
  rw [view, hfrees.tokens, if_pos rfl, hfrees.entry]

theorem Frees.change_of_ne (hfrees : Frees k₀ e freed) (found : Token → Nat) (hk : k ≠ k₀) :
    Change (e.view found k) (freed.view found k) := by
  have htokens := hfrees.tokens k
  rw [if_neg hk, Nat.add_zero] at htokens
  exact .of_eq (congrFun hfrees.entry k) htokens.symm rfl

theorem Frees.lapse (hfrees : Frees k₀ e freed) (found : Token → Nat)
    (hnone : freed.entry? k₀ = none) (k : Token) :
    Change (e.view found k) (freed.view found k) := by
  by_cases hk : k = k₀
  · subst hk
    rw [hfrees.view_eq, view, hnone]
    exact .lapse
  · exact hfrees.change_of_ne found hk

theorem Frees.change (hfrees : Frees k₀ e freed) (hputs : Puts k₀ x freed e')
    (hk₀ : Change ⟨freed.entry? k₀, freed.outstanding k₀ + 1, found k₀⟩
      ⟨some x, freed.outstanding k₀ + x.queued.toNat, found k₀⟩) (k : Token) :
    Change (e.view found k) (e'.view found k) := by
  by_cases hk : k = k₀
  · subst hk
    rwa [hfrees.view_eq, hputs.view_eq]
  · have hsame : e'.view found k = freed.view found k := by
      rw [view, view, hputs.entry, hputs.tokens, if_neg hk, if_neg hk, Nat.add_zero]
    rw [hsame]
    exact hfrees.change_of_ne found hk

theorem change_dequeue (e : Explorer) (found : Token → Nat) :
    ∀ k, Change (e.view found k) (e.dequeue.2.view found k) := by
  unfold Explorer.dequeue
  split
  · exact fun k => .keep
  · rename_i k₀ rest hqueue
    dsimp only
    split
    · rename_i hnone
      exact (frees_queue hqueue).lapse found hnone
    · refine fun k => .of_eq rfl ?_ rfl
      simp only [outstanding, hqueue, List.count_cons]
      omega

theorem change_finish (hk₀ : k₀ ∈ e.sampling) (found : Token → Nat) (startedMs durationMs : Nat)
    (outcome : Except String Int) :
    ∀ k, Change (e.view found k) ((e.finish k₀ startedMs durationMs outcome).view found k) := by
  have hfrees := frees_sampling hk₀
  unfold Explorer.finish
  dsimp only
  split
  · rename_i hnone
    exact hfrees.lapse found hnone
  · rename_i x hx
    cases outcome with
    | ok series =>
        obtain ⟨queued, hmissing, hputs⟩ := request_puts
          (count { e with sampling := e.sampling.erase k₀ } k₀.1 _) k₀ _
        refine hfrees.change ⟨hputs.entry, hputs.tokens⟩ ?_
        rw [hx]
        exact .succeed rfl hmissing
    | error message =>
        refine hfrees.change (fail_puts _ k₀ startedMs durationMs message x) ?_
        rw [hx]
        exact .again rfl

theorem change_retry (hk₀ : k₀ ∈ e.waiting) (found : Token → Nat) :
    ∀ k, Change (e.view found k) ((e.retry k₀).view found k) := by
  have hfrees := frees_waiting hk₀
  unfold Explorer.retry
  dsimp only
  split
  · rename_i hnone
    exact hfrees.lapse found hnone
  · rename_i x hx
    refine hfrees.change (puts_enqueue _ k₀ x) ?_
    rw [hx]
    exact .again rfl

/-! ### Every action -/

/-- Whatever happens before a shutdown, each target sees one of the changes. -/
theorem Action.change {a : Action} (hpossible : a.Possible e) (hgoes : a.stops = false)
    (found : Token → Nat) (k : Token) :
    Change (e.view found k) ((a.run e).view (a.found e found) k) := by
  cases a with
  | get job t => exact change_get e found job t k
  | updateTargets active => exact change_updateTargets e found active k
  | retainJobs keep => exact change_retainJobs e found keep k
  | take => exact .of_eq (congrFun (entry?_take e) k) (outstanding_take e k) rfl
  | dequeue => exact change_dequeue e found k
  | finish k₀ startedMs durationMs outcome =>
      exact change_finish hpossible found startedMs durationMs outcome k
  | retry k₀ => exact change_retry hpossible found k
  | drop | cancel => cases hgoes

theorem Action.stop {a : Action} (hpossible : a.Possible e) (hstops : a.stops = true)
    (found : Token → Nat) (k : Token) :
    entry? (a.run e) k = e.entry? k ∧ (a.run e).outstanding k ≤ e.outstanding k ∧
      a.found e found k = found k := by
  cases a with
  | drop k₀ =>
      refine ⟨rfl, ?_, rfl⟩
      rw [(frees_sampling hpossible).tokens k]
      exact Nat.le_add_right _ _
  | cancel waiting =>
      exact ⟨rfl, Nat.add_le_add_left (List.Sublist.count_le k hpossible) _, rfl⟩
  | _ => cases hstops

end Explorer

end ScrapeFleet
