import ScrapeFleet.Proofs.Explore.Actions

/-!
# How often a target is sampled

Every token allows one sample, and an entry that has been asked for brings at most one
token into circulation.  A token outlives its entry, though: when a target is
forgotten, its tokens stay in the queue, with the workers and with the timers, and
if it is asked for again, they count for the new entry.  So an entry is sampled more
often than it should be by at most the number of tokens that it has found when it
was made.
-/

namespace ScrapeFleet

namespace Explorer

variable {e : Explorer} {k : Token} {x : ExploredTarget}

/-! ## Runs -/

/-- The states that an explorer can be in, whatever order things happen in.  With each goes,
for every token, how many of its kind were outstanding when its present entry was made. -/
inductive Run : Explorer → (Token → Nat) → Prop
  | start (n : Nat) : Run (ofQueueSize n) fun _ => 0
  | step {e : Explorer} {left : Token → Nat} (a : Action) : Run e left → a.Possible e →
      Run (a.run e) (a.found e left)

/-! ## What every step keeps -/

/-- Of the tokens outstanding at most one has not been found, and each sample beyond those that
were needed has used up one that was. -/
structure Within (x : ExploredTarget) (outstanding left : Nat) : Prop where
  tokens : outstanding ≤ left + x.queued.toNat
  samples : maxSamples ≤ x.samples → x.samples + outstanding ≤ maxSamples + left

theorem Within.of_le {m n l : Nat} (hx : Within x n l) (hle : m ≤ n) : Within x m l where
  tokens := Nat.le_trans hle hx.tokens
  samples hmax := Nat.le_trans (Nat.add_le_add_left hle _) (hx.samples hmax)

theorem Within.tokens_le {n l : Nat} (hx : Within x n l) : n ≤ 1 + l := by
  have htokens := hx.tokens
  have hone := Bool.toNat_le x.queued
  omega

theorem Within.samples_le {n l : Nat} (hx : Within x n l) : x.samples ≤ maxSamples + l := by
  by_cases hmax : maxSamples ≤ x.samples
  · have hsamples := hx.samples hmax
    omega
  · omega

theorem Within.le_found {n l : Nat} (hx : Within x (n + 1) l) : n ≤ l := by
  have hone := hx.tokens_le
  omega

def View.Bounded (v : View) : Prop := ∀ x, v.entry = some x → Within x v.tokens v.found

theorem Change.bounded {v w : View} (change : Change v w) (hv : v.Bounded) : w.Bounded := by
  intro z hz
  cases change with
  | keep => exact hv z hz
  | forget => cases hz
  | lapse => cases hz
  | make t queued =>
      obtain rfl := Option.some.inj hz
      exact ⟨Nat.le_refl _, fun hmax => absurd hmax (by simp [maxSamples])⟩
  | @ask x n l queued hqueued hmissing =>
      obtain rfl := Option.some.inj hz
      have htokens : n ≤ l + x.queued.toNat := (hv x rfl).tokens
      rw [hqueued, Bool.toNat_false, Nat.add_zero] at htokens
      exact ⟨Nat.add_le_add_right htokens _, fun hmax => absurd hmissing (Nat.not_lt.2 hmax)⟩
  | @succeed x y n l hsamples hmissing =>
      obtain rfl := Option.some.inj hz
      have hx : Within x (n + 1) l := hv x rfl
      refine ⟨Nat.add_le_add_right hx.le_found _, fun hmax => ?_⟩
      have hqueued : y.queued = false := Bool.eq_false_iff.2 fun h => by
        have hfew := hmissing h
        omega
      change y.samples + (n + y.queued.toNat) ≤ maxSamples + l
      rw [hqueued, hsamples, Bool.toNat_false, Nat.add_zero]
      -- The sample that has been missing takes the one token that has not been found.
      by_cases hbefore : maxSamples ≤ x.samples
      · have hmany := hx.samples hbefore
        omega
      · have hfound := hx.le_found
        omega
  | @again x y n l hsamples =>
      obtain rfl := Option.some.inj hz
      have hx : Within x (n + 1) l := hv x rfl
      refine ⟨Nat.add_le_add_right hx.le_found _, fun hmax => ?_⟩
      have hmany := hx.samples (hsamples ▸ hmax)
      have hbit := Bool.toNat_le y.queued
      change y.samples + (n + y.queued.toNat) ≤ maxSamples + l
      omega

/-! ## Every run -/

variable {left : Token → Nat}

theorem Run.bounded (run : Run e left) (k : Token) : (e.view left k).Bounded := by
  induction run with
  | start n => exact fun x hx => nomatch hx
  | @step e left a _ hpossible ih =>
      cases hstops : a.stops with
      | false => exact (a.change hpossible hstops left k).bounded ih
      | true =>
          obtain ⟨hentry, htokens, hfound⟩ := a.stop hpossible hstops left k
          intro x hx
          rw [view, hfound]
          exact (ih x (hentry.symm.trans hx)).of_le htokens

/-- A known target is sampled at most as often as it should be, and has at most one token
outstanding, except for the tokens that its entry has found when it was made. -/
theorem Run.sampling_bounded (run : Run e left) (hx : e.entry? k = some x) :
    x.samples ≤ maxSamples + left k ∧ e.outstanding k ≤ 1 + left k :=
  ⟨(run.bounded k x hx).samples_le, (run.bounded k x hx).tokens_le⟩

def askedAgain : Explorer :=
  let target : Target := { hash := 1, job := "node", url := "u" }
  let asked := ((ofQueueSize 16).get "node" target).2
  ((asked.updateTargets ∅).get "node" target).2

def sampleFirst (e : Explorer) (k : Token) : Explorer := e.dequeue.2.finish k 0 0 (.ok 1)

theorem Run.askedAgain : ∃ left, Run askedAgain left ∧ left ("node", 1) = 1 := by
  have asked := (Run.start 16).step (.get "node" { hash := 1, job := "node", url := "u" }) trivial
  have forgotten := asked.step (.updateTargets ∅) trivial
  exact ⟨_, forgotten.step (.get "node" _) trivial, by decide +kernel⟩

theorem Run.sampleFirst (run : Run e left) (hk : k ∈ e.dequeue.2.sampling) :
    Run (e.sampleFirst k) left :=
  (run.step .dequeue trivial).step (.finish k 0 0 (.ok 1)) hk

theorem Run.sampling_bounded_askedAgain :
    ∃ left x, Run Explorer.askedAgain left ∧ Explorer.askedAgain.entry? ("node", 1) = some x ∧
      x.samples ≤ maxSamples + left ("node", 1) ∧
      Explorer.askedAgain.outstanding ("node", 1) ≤ 1 + left ("node", 1) := by
  obtain ⟨left, run, -⟩ := Run.askedAgain
  have hknown : (Explorer.askedAgain.entry? ("node", 1)).isSome = true := by decide +kernel
  obtain ⟨x, hx⟩ := Option.isSome_iff_exists.1 hknown
  exact ⟨left, x, run, hx, run.sampling_bounded hx⟩

/-- The token of the forgotten entry is not cancelled: the target has two tokens, and is sampled
once too often. -/
theorem Run.oversampled :
    ∃ e left x, Run e left ∧ Run Explorer.askedAgain left ∧
      1 < Explorer.askedAgain.outstanding ("node", 1) ∧ e.entry? ("node", 1) = some x ∧
      maxSamples < x.samples := by
  obtain ⟨left, run, -⟩ := Run.askedAgain
  let k : Token := ("node", 1)
  have first : Run (Explorer.askedAgain.sampleFirst k) left := run.sampleFirst (by decide +kernel)
  have second : Run ((Explorer.askedAgain.sampleFirst k).sampleFirst k) left :=
    first.sampleFirst (by decide +kernel)
  have third : Run (((Explorer.askedAgain.sampleFirst k).sampleFirst k).sampleFirst k) left :=
    second.sampleFirst (by decide +kernel)
  have hsamples : Option.any (fun x => decide (maxSamples < x.samples))
      ( entry? (((Explorer.askedAgain.sampleFirst k).sampleFirst k).sampleFirst k) k) = true := by
    decide +kernel
  obtain ⟨x, hx, hmany⟩ := (Option.any_eq_true _ _).1 hsamples
  exact ⟨_, left, x, third, run, by decide +kernel, hx, of_decide_eq_true hmany⟩

end Explorer

end ScrapeFleet
