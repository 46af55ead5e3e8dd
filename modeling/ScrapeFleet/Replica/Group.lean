import ScrapeFleet.Replica.Endpoint
import ScrapeFleet.Replica.Keys

/-!
The replicas that serve one shard.

Every request goes to all replicas and succeeds if one of them succeeds.  For each
replica the group remembers the assignment that it accepted last, so that the same
assignment is not sent again.  It forgets that when the replica fails a request or
reports something else, and for all replicas when all of them fail.
-/

namespace ScrapeFleet

structure Replica (ρ : Type) where
  endpoint : ρ
  /-- The assignment that the replica is known to have. -/
  applied : Option AssignmentKeys := none
  deriving Repr

abbrev ReplicaGroup (ρ : Type) := List (Replica ρ)

namespace Replica

variable {ρ α : Type}

def forget (r : Replica ρ) : Replica ρ := { r with applied := none }

/-- Asks the replica; if it fails, its assignment is forgotten. -/
def ask (op : Request ρ α) (r : Replica ρ) : Except RequestError α × Replica ρ :=
  match op r.endpoint with
  | (.ok a, e) => (.ok a, { r with endpoint := e })
  | (.error err, e) => (.error err, { endpoint := e, applied := none })

/-- Sends an assignment with the given keys, unless the replica has it; returns whether it
was sent. -/
def push [Endpoint ρ] (ts : TargetsByJob) (keys : AssignmentKeys) (r : Replica ρ) :
    Except RequestError Bool × Replica ρ :=
  if r.applied = some keys then (.ok false, r)
  else
    match Endpoint.pushTargets ts r.endpoint with
    | (.ok (), e) => (.ok true, { endpoint := e, applied := some keys })
    | (.error err, e) => (.error err, { endpoint := e, applied := none })

/-- Compares a report with the assignment, which is forgotten if they differ. -/
def observe (reported : StatusMap) (r : Replica ρ) : Replica ρ :=
  match r.applied with
  | none => r
  | some keys => if keys = .ofStatuses reported then r else r.forget

end Replica

namespace ReplicaGroup

variable {ρ α : Type}

def ofEndpoints (es : List ρ) : ReplicaGroup ρ := es.map ({ endpoint := · })

def addresses [Endpoint ρ] (g : ReplicaGroup ρ) : List String :=
  g.map (fun r => Endpoint.address r.endpoint)

def invalidate (g : ReplicaGroup ρ) : ReplicaGroup ρ := g.map Replica.forget

def observe (g : ReplicaGroup ρ) (i : Nat) (reported : StatusMap) : ReplicaGroup ρ :=
  g.modify i (Replica.observe reported)

/-! ## Answers of all replicas -/

def successes (answers : List (Except RequestError α)) : List (Nat × α) :=
  answers.zipIdx.filterMap (fun (a, i) =>
    match a with
    | .ok v => some (i, v)
    | .error _ => none)

def lastError (answers : List (Except RequestError α)) : String :=
  answers.foldl
    (fun last a =>
      match a with
      | .ok _ => last
      | .error e => e.message)
    ""

def allFailed (answers : List (Except RequestError α)) : RequestError :=
  .allReplicasFailed answers.length (lastError answers)

/-! ## Requests -/

def broadcast (op : Request ρ α) (g : ReplicaGroup ρ) :
    Except RequestError (List (Nat × α)) × ReplicaGroup ρ :=
  if g.isEmpty then (.error .noReplicas, g)
  else
    let asked := g.map (Replica.ask op)
    let answers := asked.map (·.1)
    let g := asked.map (·.2)
    match successes answers with
    | [] => (.error (allFailed answers), invalidate g)
    | found => (.ok found, g)

/-- The value that no later one is better than, where `better a b` lets `a` replace `b`. -/
def pickBest (better : α → α → Bool) (values : List α) : Option α :=
  values.foldl
    (fun best a =>
      match best with
      | none => some a
      | some b => if better a b then some a else some b)
    none

def read (op : Request ρ α) (better : α → α → Bool) (g : ReplicaGroup ρ) :
    Except RequestError α × ReplicaGroup ρ :=
  match broadcast op g with
  | (.error e, g) => (.error e, g)
  | (.ok found, g) =>
    match pickBest better (found.map (·.2)) with
    | none => (.error .noReplicas, g)
    | some a => (.ok a, g)

def write (op : Request ρ Unit) (g : ReplicaGroup ρ) : Except RequestError Unit × ReplicaGroup ρ :=
  match broadcast op g with
  | (.error e, g) => (.error e, g)
  | (.ok _, g) => (.ok (), g)

/-- Sends an assignment to the replicas that are not known to have it, and returns to how
many of them it was sent. -/
def pushTargets [Endpoint ρ] (ts : TargetsByJob) (g : ReplicaGroup ρ) :
    Except RequestError Nat × ReplicaGroup ρ :=
  if g.isEmpty then (.error .noReplicas, g)
  else
    let pushed := g.map (Replica.push ts (.ofTargets ts))
    let answers := pushed.map (·.1)
    let g := pushed.map (·.2)
    match successes answers with
    | [] => (.error (allFailed answers), invalidate g)
    | found => (.ok (found.countP (·.2)), g)

end ReplicaGroup

end ScrapeFleet
