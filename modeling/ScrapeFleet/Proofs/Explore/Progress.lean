import Mathlib.Logic.Relation
import ScrapeFleet.Proofs.Explore.Actions

/-!
# No target gets stuck

An entry says whether a token for it is on its way, and nobody asks for one as long
as it does.  What it says is kept with the entry and not with the token, so a token
may be on its way that no entry knows of.  The converse does not happen: a token is
used up only by a worker or a timer that looks at its entry, and the entry then says
anew whether another token has been put into the queue.
-/

namespace ScrapeFleet

namespace Explorer

variable {e e' : Explorer}

/-! ## Steps -/

inductive Step : Explorer → Explorer → Prop
  | act {e : Explorer} (a : Action) : a.stops = false → a.Possible e → Step e (a.run e)

/-- The states of an explorer with a queue of size `n` before it is shut down. -/
abbrev Reachable (n : Nat) : Explorer → Prop := Relation.ReflTransGen Step (ofQueueSize n)

/-! ## What every step keeps -/

/-- The entry, if it counts on a token, has one. -/
def View.Accounted (v : View) : Prop := ∀ x, v.entry = some x → x.queued = true → 0 < v.tokens

theorem Change.accounted {v w : View} (change : Change v w) (hv : v.Accounted) : w.Accounted := by
  intro z hz hqueued
  cases change with
  | keep => exact hv z hz hqueued
  | forget => cases hz
  | lapse => cases hz
  | make | ask | succeed | again =>
      -- The entry is marked only if the token has been put into the queue just now.
      obtain rfl := Option.some.inj hz
      have hone := congrArg Bool.toNat hqueued
      rw [Bool.toNat_true] at hone
      dsimp only at hone ⊢
      omega

def Accounted (e : Explorer) : Prop := ∀ k, (e.view (fun _ => 0) k).Accounted

theorem Step.accounted (step : Step e e') (he : Accounted e) : Accounted e' := by
  obtain ⟨a, hgoes, hpossible⟩ := step
  exact fun k => (a.change hpossible hgoes (fun _ => 0) k).accounted (he k)

/-! ## Every reachable state -/

variable {n : Nat}

theorem Reachable.accounted (reach : Reachable n e) : Accounted e := by
  induction reach with
  | refl => exact fun k x hx => nomatch hx
  | tail _ step ih => exact step.accounted ih

theorem Accounted.outstanding_get (he : Accounted e) (job : String) (t : Target)
    (hmissing : ∀ x, e.entry? (job, t.hash) = some x → x.samples < maxSamples)
    (hroom : e.queue.length < e.capacity) : 0 < (e.get job t).2.outstanding (job, t.hash) := by
  have henqueued : ∀ y : ExploredTarget, y.samples < maxSamples →
      0 < (e.request (job, t.hash) y).outstanding (job, t.hash) := by
    intro y hy
    simp only [Explorer.request, hy, if_true, outstanding_put, outstanding_enqueue]
    simp [enqueue, hroom]
  unfold Explorer.get
  dsimp only
  split
  · exact henqueued _ (Nat.succ_pos 1)
  · rename_i x hx
    dsimp only
    split
    · exact he _ x hx ‹_›
    · rw [if_pos (hmissing x hx)]
      exact henqueued x (hmissing x hx)

/-- An entry that counts on a token has one in the queue, with a worker, or waiting to be tried
again.  So after a question about a target that samples are missing for there is such a token,
unless the queue is full. -/
theorem Reachable.never_stuck (reach : Reachable n e) :
    (∀ k x, e.entry? k = some x → x.queued = true →
        k ∈ e.queue ∨ k ∈ e.sampling ∨ k ∈ e.waiting) ∧
      ∀ job t, (∀ x, e.entry? (job, t.hash) = some x → x.samples < maxSamples) →
        let asked := (e.get job t).2
        ((job, t.hash) ∈ asked.queue ∨ (job, t.hash) ∈ asked.sampling ∨
            (job, t.hash) ∈ asked.waiting) ∨
          e.capacity ≤ e.queue.length := by
  have he := reach.accounted
  refine ⟨fun k x hx hqueued => outstanding_pos_iff.1 (he k x hx hqueued), ?_⟩
  intro job t hmissing asked
  rcases Nat.lt_or_ge e.queue.length e.capacity with hroom | hfull
  · exact .inl (outstanding_pos_iff.1 (he.outstanding_get job t hmissing hroom))
  · exact .inr hfull

def oneRefused : Explorer :=
  let first : Target := { hash := 1, job := "node", url := "a" }
  let second : Target := { hash := 2, job := "node", url := "b" }
  (((ofQueueSize 1).get "node" first).2.get "node" second).2

def oneWaits : Explorer := oneRefused.take.finish ("node", 1) 0 0 (.error "refused")

theorem Reachable.never_stuck_oneWaits :
    (Reachable 1 oneWaits ∧
        (oneWaits.entry? ("node", 1)).any (·.queued) = true ∧
        (oneWaits.entry? ("node", 2)).any (fun x => x.samples < maxSamples) = true) ∧
      ("node", 1) ∈ oneWaits.waiting ∧
      ("node", 2) ∈ (oneWaits.get "node" { hash := 2, job := "node", url := "b" }).2.queue := by
  have hrefused : Reachable 1 oneRefused :=
    (Relation.ReflTransGen.refl.tail (.act (.get "node" _) rfl trivial)).tail
      (.act (.get "node" _) rfl trivial)
  have hsampling : ("node", (1 : Fingerprint)) ∈ oneRefused.take.sampling := by decide +kernel
  have reach : Reachable 1 oneWaits :=
    (hrefused.tail (.act .take rfl trivial)).tail
      (.act (.finish ("node", 1) 0 0 (.error "refused")) rfl hsampling)
  have hqueued : (oneWaits.entry? ("node", 1)).any (·.queued) = true := by decide +kernel
  have hmissing : (oneWaits.entry? ("node", 2)).any (fun x => x.samples < maxSamples) = true := by
    decide +kernel
  refine ⟨⟨reach, hqueued, hmissing⟩, ?_, ?_⟩
  · obtain ⟨x, hx, hx'⟩ := (Option.any_eq_true _ _).1 hqueued
    rcases reach.never_stuck.1 _ x hx hx' with hqueue | hsampling | hwaiting
    · exact absurd hqueue (by decide +kernel)
    · exact absurd hsampling (by decide +kernel)
    · exact hwaiting
  · obtain ⟨x, hx, hfew⟩ := (Option.any_eq_true _ _).1 hmissing
    rcases reach.never_stuck.2 "node" { hash := 2, job := "node", url := "b" } (fun y hy => by
      obtain rfl : x = y := Option.some.inj (hx.symm.trans hy)
      exact of_decide_eq_true hfew) with (hqueue | hsampling | hwaiting) | hfull
    · exact hqueue
    · exact absurd hsampling (by decide +kernel)
    · exact absurd hwaiting (by decide +kernel)
    · exact absurd hfull (by decide +kernel)

end Explorer

end ScrapeFleet
