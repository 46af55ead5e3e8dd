import Mathlib.Data.List.Induction
import ScrapeFleet.Proofs.Replica.Records
import ScrapeFleet.Proofs.Replica.Requests
import ScrapeFleet.Proofs.Replica.States

/-!
# When an assignment is not sent

What the group remembers of a replica is one set of keys.  It is a summary of
everything that has happened to the replica: it holds the keys of the last
assignment that the replica accepted, as long as nothing has cast doubt on it
since.  So a replica is left alone by a push exactly if its history justifies it.
-/

namespace ScrapeFleet

variable {ρ : Type}

/-! ## Calls to a group -/

/-- A call to a group of replicas; requests other than assignments are arbitrary. -/
inductive GroupCall (ρ : Type) : Type 1 where
  | broadcast {α : Type} (op : Request ρ α)
  | read {α : Type} (op : Request ρ α) (better : α → α → Bool)
  | write (op : Request ρ Unit)
  | pushTargets (ts : TargetsByJob)
  | observe (i : Nat) (reported : StatusMap)
  | invalidate

namespace GroupCall

def recorded : GroupCall ρ → GroupCall (Recorded ρ)
  | .broadcast op => .broadcast (op.noted .asked)
  | .read op better => .read (op.noted .asked) better
  | .write op => .write (op.noted .asked)
  | .pushTargets ts => .pushTargets ts
  | .observe i m => .observe i m
  | .invalidate => .invalidate

variable [Endpoint ρ]

def run : GroupCall ρ → ReplicaGroup ρ → ReplicaGroup ρ
  | .broadcast op, g => (g.broadcast op).2
  | .read op better, g => (g.read op better).2
  | .write op, g => (g.write op).2
  | .pushTargets ts, g => (g.pushTargets ts).2
  | .observe i m, g => g.observe i m
  | .invalidate, g => g.invalidate

def fails : GroupCall ρ → ReplicaGroup ρ → Bool
  | .broadcast op, g => !(g.broadcast op).1.isOk
  | .read op better, g => !(g.read op better).1.isOk
  | .write op, g => !(g.write op).1.isOk
  | .pushTargets ts, g => !(g.pushTargets ts).1.isOk
  | .observe .., _ => false
  | .invalidate, _ => false

def contacts (c : GroupCall ρ) (g : ReplicaGroup ρ) (i : Nat) : List Contact :=
  ((c.recorded.run (g.map Replica.recorded))[i]?.map (·.endpoint.record)).getD []

end GroupCall

/-! ## The history of one replica -/

/-- What happens to one replica and its group. -/
inductive ReplicaEvent where
  | contact (c : Contact)
  | reported (m : StatusMap)
  | invalidated
  | allFailed

namespace GroupCall

variable [Endpoint ρ]

def notices (i : Nat) : GroupCall ρ → List ReplicaEvent
  | .observe j m => if j = i then [.reported m] else []
  | .invalidate => [.invalidated]
  | .broadcast _ | .read .. | .write _ | .pushTargets _ => []

def events (c : GroupCall ρ) (g : ReplicaGroup ρ) (i : Nat) : List ReplicaEvent :=
  (c.contacts g i).map .contact ++ c.notices i ++ if c.fails g then [.allFailed] else []

def runAll : List (GroupCall ρ) → ReplicaGroup ρ → ReplicaGroup ρ
  | [], g => g
  | c :: calls, g => runAll calls (c.run g)

def history (i : Nat) : List (GroupCall ρ) → ReplicaGroup ρ → List ReplicaEvent
  | [], _ => []
  | c :: calls, g => c.events g i ++ history i calls (c.run g)

end GroupCall

/-! ## Justification -/

def TargetsByJob.SamePairs (ts ts' : TargetsByJob) : Prop :=
  ∀ h state, ts.Gives h state ↔ ts'.Gives h state

/-- The event casts no doubt on a replica that has accepted `ts`, and gives it nothing else. -/
def ReplicaEvent.Confirms (ts : TargetsByJob) : ReplicaEvent → Prop
  | .contact (.asked answered) => answered = true
  | .contact (.pushed ..) => False
  | .reported m => ts.Lists m.states
  | .invalidated => False
  | .allFailed => False

/-- The last assignment that the replica accepted has the pairs of `ts`, and nothing has cast
doubt on it since. -/
def Justified (history : List ReplicaEvent) (ts : TargetsByJob) : Prop :=
  ∃ before accepted after,
    history = before ++ .contact (.pushed accepted true) :: after ∧
      accepted.SamePairs ts ∧ ∀ e ∈ after, e.Confirms accepted

/-! ## Memory as a summary of the history -/

namespace AssignmentKeys

theorem ofTargets_eq_iff {ts ts' : TargetsByJob} :
    ofTargets ts = ofTargets ts' ↔ ts.SamePairs ts' := by
  constructor
  · intro heq h state
    rw [← has_ofTargets, heq, has_ofTargets]
  · intro hsame
    refine ext fun h state => Bool.eq_iff_iff.2 ?_
    rw [has_ofTargets, has_ofTargets]
    exact hsame h state

end AssignmentKeys

namespace ReplicaEvent

def remember (memory : Option AssignmentKeys) : ReplicaEvent → Option AssignmentKeys
  | .contact (.asked true) => memory
  | .contact (.asked false) => none
  | .contact (.pushed ts true) => some (.ofTargets ts)
  | .contact (.pushed _ false) => none
  | .reported m => memory.filter (· = .ofStatuses m)
  | .invalidated => none
  | .allFailed => none

theorem remember_of_confirms {ts : TargetsByJob} {e : ReplicaEvent} (he : e.Confirms ts) :
    e.remember (some (.ofTargets ts)) = some (.ofTargets ts) := by
  cases e with
  | contact c =>
      cases c with
      | asked answered =>
          obtain rfl : answered = true := he
          rfl
      | pushed => exact he.elim
  | reported m =>
      have hkeys : AssignmentKeys.ofTargets ts = .ofStatuses m :=
        AssignmentKeys.ofTargets_eq_ofStatuses_iff.2 he
      simp [remember, hkeys]
  | invalidated => exact he.elim
  | allFailed => exact he.elim

theorem cases_of_remember {memory : Option AssignmentKeys} {e : ReplicaEvent}
    {keys : AssignmentKeys} (hkeys : e.remember memory = some keys) :
    (∃ ts, e = .contact (.pushed ts true) ∧ .ofTargets ts = keys) ∨
      memory = some keys ∧ ∀ ts, .ofTargets ts = keys → e.Confirms ts := by
  cases e with
  | contact c =>
      cases c with
      | asked answered =>
          cases answered with
          | true => exact .inr ⟨hkeys, fun _ _ => rfl⟩
          | false => cases hkeys
      | pushed ts accepted =>
          cases accepted with
          | true => exact .inl ⟨ts, rfl, Option.some.inj hkeys⟩
          | false => cases hkeys
  | reported m =>
      obtain ⟨hmemory, hreported⟩ := Option.filter_eq_some_iff.1 hkeys
      refine .inr ⟨hmemory, fun ts hts => ?_⟩
      exact AssignmentKeys.ofTargets_eq_ofStatuses_iff.1 (hts.trans (of_decide_eq_true hreported))
  | invalidated => cases hkeys
  | allFailed => cases hkeys

/-- Keys are remembered exactly if the last accepted assignment has them and every later event
confirms it. -/
theorem foldl_remember_eq_some_iff {history : List ReplicaEvent} {keys : AssignmentKeys} :
    history.foldl remember none = some keys ↔
      ∃ before accepted after, history = before ++ .contact (.pushed accepted true) :: after ∧
        .ofTargets accepted = keys ∧ ∀ e ∈ after, e.Confirms accepted := by
  constructor
  · intro hkeys
    -- The last event has either accepted the keys or confirmed what was remembered before.
    induction history using List.reverseRecOn with
    | nil => cases hkeys
    | append_singleton history e ih =>
        rw [List.foldl_append, List.foldl_cons, List.foldl_nil] at hkeys
        rcases cases_of_remember hkeys with ⟨ts, rfl, hts⟩ | ⟨hmemory, hconfirms⟩
        · exact ⟨history, ts, [], rfl, hts, fun e he => absurd he List.not_mem_nil⟩
        · obtain ⟨before, accepted, after, rfl, haccepted, hafter⟩ := ih hmemory
          refine ⟨before, accepted, after ++ [e], by simp, haccepted, fun e' he' => ?_⟩
          rcases List.mem_append.1 he' with hmem | hmem
          · exact hafter e' hmem
          · rw [List.mem_singleton.1 hmem]
            exact hconfirms accepted haccepted
  · rintro ⟨before, accepted, after, rfl, rfl, hafter⟩
    rw [List.foldl_append, List.foldl_cons]
    change after.foldl remember (some (.ofTargets accepted)) = _
    induction after with
    | nil => rfl
    | cons e after ih =>
        rw [List.foldl_cons, remember_of_confirms (hafter e List.mem_cons_self)]
        exact ih fun e he => hafter e (List.mem_cons_of_mem _ he)

theorem foldl_remember_eq_iff_justified {history : List ReplicaEvent} {ts : TargetsByJob} :
    history.foldl remember none = some (.ofTargets ts) ↔ Justified history ts := by
  rw [foldl_remember_eq_some_iff]
  simp only [Justified, AssignmentKeys.ofTargets_eq_iff]

end ReplicaEvent

/-! ## What a call does to one replica -/

namespace GroupCall

open ReplicaEvent

variable {α : Type} [Endpoint ρ] {g : ReplicaGroup ρ} {i : Nat} {r : Replica ρ}

theorem contacts_broadcast (op : Request ρ α) (hr : g[i]? = some r) :
    (broadcast op).contacts g i = [.asked (op r.endpoint).1.isOk] := by
  have hrecorded : (g.map Replica.recorded)[i]? = some r.recorded := by simp [hr]
  have hasked : (r.recorded.ask (op.noted .asked)).2.endpoint.record =
      [.asked (op r.endpoint).1.isOk] := by
    unfold Replica.ask Request.noted Replica.recorded
    rcases op r.endpoint with ⟨_ | _, _⟩ <;> rfl
  simp only [contacts, recorded, run, ReplicaGroup.getElem?_broadcast _ hrecorded, Option.map_some,
    Option.getD_some]
  split <;> exact hasked

theorem contacts_pushTargets (ts : TargetsByJob) (hr : g[i]? = some r) :
    (pushTargets ts).contacts g i =
      if r.applied = some (.ofTargets ts) then []
      else [.pushed ts (Endpoint.pushTargets ts r.endpoint).1.isOk] := by
  have hrecorded : (g.map Replica.recorded)[i]? = some r.recorded := by simp [hr]
  have hpushed : (r.recorded.push ts (.ofTargets ts)).2.endpoint.record =
      if r.applied = some (.ofTargets ts) then []
      else [.pushed ts (Endpoint.pushTargets ts r.endpoint).1.isOk] := by
    unfold Replica.push Replica.recorded
    split
    · rfl
    · simp only [Endpoint.pushTargets, Request.noted]
      rcases Endpoint.pushTargets ts r.endpoint with ⟨_ | _, _⟩ <;> rfl
  simp only [contacts, recorded, run, ReplicaGroup.getElem?_pushTargets _ hrecorded,
    Option.map_some, Option.getD_some]
  split <;> exact hpushed

theorem events_eq_of_run_eq {c : GroupCall ρ} {op : Request ρ α} (hnotices : c.notices i = [])
    (hfails : c.fails g = (broadcast op).fails g)
    (hrun : c.recorded.run (g.map Replica.recorded) =
      (broadcast op).recorded.run (g.map Replica.recorded)) :
    c.events g i = (broadcast op).events g i := by
  have hcontacts : c.contacts g i = (broadcast op).contacts g i := by rw [contacts, hrun, contacts]
  rw [events, hcontacts, hnotices, hfails]
  rfl

theorem applied_broadcast (op : Request ρ α) (hr : g[i]? = some r) :
    ∃ r', ((broadcast op).run g)[i]? = some r' ∧
      r'.applied = ((broadcast op).events g i).foldl remember r.applied := by
  refine ⟨_, ReplicaGroup.getElem?_broadcast op hr, ?_⟩
  have hasked : (r.ask op).2.applied = if (op r.endpoint).1.isOk then r.applied else none := by
    unfold Replica.ask
    rcases op r.endpoint with ⟨_ | _, _⟩ <;> rfl
  simp only [events, contacts_broadcast op hr, notices, fails]
  by_cases hok : (g.broadcast op).1.isOk = true
  · simp only [hok, if_true, hasked]
    cases (op r.endpoint).1.isOk <;> rfl
  · simp [hok, remember, Replica.forget]

theorem applied_pushTargets (ts : TargetsByJob) (hr : g[i]? = some r) :
    ∃ r', ((pushTargets ts).run g)[i]? = some r' ∧
      r'.applied = ((pushTargets ts).events g i).foldl remember r.applied := by
  refine ⟨_, ReplicaGroup.getElem?_pushTargets ts hr, ?_⟩
  simp only [events, contacts_pushTargets ts hr, notices, fails]
  by_cases hok : (g.pushTargets ts).1.isOk = true
  · simp only [hok, if_true, Replica.push]
    by_cases happlied : r.applied = some (.ofTargets ts)
    · simp [happlied]
    · simp only [happlied, if_false]
      rcases Endpoint.pushTargets ts r.endpoint with ⟨_ | _, _⟩ <;> rfl
  · simp [hok, remember, Replica.forget]

theorem contacts_observe (j : Nat) (m : StatusMap) (hr : g[i]? = some r) :
    (observe j m).contacts g i = [] := by
  have hrecord : (r.recorded.observe m).endpoint.record = [] := by
    unfold Replica.observe Replica.recorded
    cases r.applied with
    | none => rfl
    | some keys => by_cases hkeys : keys = .ofStatuses m <;> simp [hkeys, Replica.forget]
  have hrecorded : (g.map Replica.recorded)[i]? = some r.recorded := by simp [hr]
  simp only [contacts, recorded, run, ReplicaGroup.observe, List.getElem?_modify, hrecorded]
  by_cases hji : j = i
  · simp [hji, hrecord]
  · simp [hji, Replica.recorded]

theorem applied_observe (j : Nat) (m : StatusMap) (hr : g[i]? = some r) :
    ∃ r', ((observe j m).run g)[i]? = some r' ∧
      r'.applied = ((observe j m).events g i).foldl remember r.applied := by
  have hobserve : (r.observe m).applied = r.applied.filter (· = .ofStatuses m) := by
    unfold Replica.observe
    rcases happlied : r.applied with _ | keys
    · exact happlied
    · by_cases hkeys : keys = .ofStatuses m
      · simp [hkeys, happlied, Option.filter]
      · simp [hkeys, Replica.forget, Option.filter]
  simp only [events, contacts_observe j m hr, notices, fails, run, ReplicaGroup.observe,
    List.getElem?_modify, hr]
  by_cases hji : j = i
  · exact ⟨r.observe m, by simp [hji], by simp [hji, hobserve, remember]⟩
  · exact ⟨r, by simp [hji], by simp [hji]⟩

theorem applied_invalidate (hr : g[i]? = some r) :
    ∃ r', ((invalidate : GroupCall ρ).run g)[i]? = some r' ∧
      r'.applied = ((invalidate : GroupCall ρ).events g i).foldl remember r.applied := by
  refine ⟨r.forget, ReplicaGroup.getElem?_invalidate hr, ?_⟩
  have happend : ∀ before : List ReplicaEvent,
      (before ++ [ReplicaEvent.invalidated]).foldl remember r.applied = none := by
    intro before
    rw [List.foldl_append]
    rfl
  simp only [events, notices, fails, Bool.false_eq_true, if_false, List.append_nil, happend]
  rfl

theorem applied_run (c : GroupCall ρ) (hr : g[i]? = some r) :
    ∃ r', (c.run g)[i]? = some r' ∧ r'.applied = (c.events g i).foldl remember r.applied := by
  cases c with
  | broadcast op => exact applied_broadcast op hr
  | read op better =>
      obtain ⟨hrun, hok⟩ := ReplicaGroup.read_eq_broadcast op better g
      have hevents : (read op better).events g i = (broadcast op).events g i :=
        events_eq_of_run_eq rfl (congrArg (!·) hok) (ReplicaGroup.read_eq_broadcast ..).1
      rw [run, hrun, hevents]
      exact applied_broadcast op hr
  | write op =>
      obtain ⟨hrun, hok⟩ := ReplicaGroup.write_eq_broadcast op g
      have hevents : (write op).events g i = (broadcast op).events g i :=
        events_eq_of_run_eq rfl (congrArg (!·) hok) (ReplicaGroup.write_eq_broadcast ..).1
      rw [run, hrun, hevents]
      exact applied_broadcast op hr
  | pushTargets ts => exact applied_pushTargets ts hr
  | observe j m => exact applied_observe j m hr
  | invalidate => exact applied_invalidate hr

/-- What is remembered of a replica is a summary of its history. -/
theorem applied_runAll (calls : List (GroupCall ρ)) (hr : g[i]? = some r) :
    ∃ r', (runAll calls g)[i]? = some r' ∧
      r'.applied = (history i calls g).foldl remember r.applied := by
  induction calls generalizing g r with
  | nil => exact ⟨r, hr, rfl⟩
  | cons c calls ih =>
      obtain ⟨r₁, hr₁, happlied₁⟩ := applied_run c hr
      obtain ⟨r₂, hr₂, happlied₂⟩ := ih hr₁
      refine ⟨r₂, hr₂, ?_⟩
      rw [happlied₂, happlied₁, history, List.foldl_append]

/-- However a group of new replicas has been used, an assignment is not sent to a replica
exactly if what has happened to that replica justifies it. -/
theorem push_left_out_iff (es : List ρ) (calls : List (GroupCall ρ)) (ts : TargetsByJob)
    (hi : i < es.length) :
    (pushTargets ts).contacts (runAll calls (.ofEndpoints es)) i = [] ↔
      Justified (history i calls (.ofEndpoints es)) ts := by
  have hnew : (ReplicaGroup.ofEndpoints es)[i]? = some { endpoint := es[i] } := by
    simp [ReplicaGroup.ofEndpoints, hi]
  obtain ⟨r, hr, happlied⟩ := applied_runAll calls hnew
  rw [contacts_pushTargets ts hr, ← ReplicaEvent.foldl_remember_eq_iff_justified, happlied]
  split <;> simp_all

theorem push_left_out_after_report :
    let es : List InMemory :=
      [{ address := "a", schedule := fun _ => .next [some .timeout] }, { address := "b" }]
    let ts : TargetsByJob := TargetsByJob.add ∅ "node" { hash := 1, job := "node", url := "u", series := 5 }
    let report : StatusMap := SortedMap.insert ∅ 1 (.fresh 5)
    let calls := [pushTargets ts, pushTargets ts, broadcast Endpoint.scrapeStatus,
      observe 1 report]
    (0 < es.length ∧ 1 < es.length) ∧
      ¬Justified (history 0 calls (.ofEndpoints es)) ts ∧
      Justified (history 1 calls (.ofEndpoints es)) ts := by
  intro es ts report calls
  have hsent : (pushTargets ts).contacts (runAll calls (.ofEndpoints es)) 0 ≠ [] := by
    decide +kernel
  have hskipped : (pushTargets ts).contacts (runAll calls (.ofEndpoints es)) 1 = [] := by
    decide +kernel
  have hfirst : 0 < es.length := by decide
  have hsecond : 1 < es.length := by decide
  exact ⟨⟨hfirst, hsecond⟩, fun h => hsent ((push_left_out_iff es calls ts hfirst).2 h),
    (push_left_out_iff es calls ts hsecond).1 hskipped⟩

end GroupCall

end ScrapeFleet
