import ScrapeFleet.Plan.Placement

/-!
Estimating how many series a target exposes before a shard scrapes it.

Every target that was asked for has an entry, and is sampled until enough samples have
succeeded.  A token stands for a sample that is still to come: it lies in a bounded
queue, is with a worker that takes the sample, or waits to be tried again after a
failure.  A token whose entry is gone comes to nothing.
-/

namespace ScrapeFleet

structure ExploredTarget where
  target : Target
  status : Status := .fresh 0
  samples : Nat := 0
  /-- Whether a token for it is thought to be on its way. -/
  queued : Bool := false
  deriving DecidableEq, Repr

structure JobStats where
  explored : Nat := 0
  failed : Nat := 0
  deriving DecidableEq, Repr, Inhabited

abbrev Token := String × Fingerprint

structure Explorer where
  jobs : SortedMap String (SortedMap Fingerprint ExploredTarget) := ∅
  stats : SortedMap String JobStats := ∅
  queue : List Token := []
  capacity : Nat
  sampling : List Token := []
  waiting : List Token := []
  deriving Repr

namespace Explorer

def maxSamples : Nat := 2

def ofQueueSize (n : Nat) : Explorer := { capacity := max n 1 }

def entry? (e : Explorer) (k : Token) : Option ExploredTarget :=
  (e.jobs.get? k.1).bind (·.get? k.2)

def put (e : Explorer) (k : Token) (x : ExploredTarget) : Explorer :=
  { e with jobs := e.jobs.alter k.1 (fun entries => (entries.getD ∅).insert k.2 x) }

def enqueue (e : Explorer) (k : Token) : Bool × Explorer :=
  if e.queue.length < e.capacity then (true, { e with queue := e.queue ++ [k] }) else (false, e)

def request (e : Explorer) (k : Token) (x : ExploredTarget) : Explorer :=
  if x.samples < maxSamples then
    let (queued, e) := e.enqueue k
    e.put k { x with queued }
  else e.put k { x with queued := false }

/-! ## Questions -/

/-- The estimate for a target.  The first question registers the target and has no answer;
every question makes sure that a sample is on its way if one is needed. -/
def get (e : Explorer) (job : String) (t : Target) : Option Status × Explorer :=
  let k := (job, t.hash)
  match e.entry? k with
  | none => (none, e.request k { target := t })
  | some x => (some x.status, if x.queued then e else if x.samples < maxSamples then e.request k x else e)

def estimate (e : Explorer) (job : String) (h : Fingerprint) : Option Status :=
  (e.entry? (job, h)).map (·.status)

/-! ## Changes of the targets -/

def keepTarget (acc : SortedMap Fingerprint ExploredTarget × SortedMap Fingerprint ExploredTarget)
    (t : Target) : SortedMap Fingerprint ExploredTarget × SortedMap Fingerprint ExploredTarget :=
  let (old, new) := acc
  (old.erase t.hash, new.insert t.hash ((old.get? t.hash).getD { target := t }))

/-- Makes the active targets the known ones.  Those that were known keep their progress. -/
def updateTargets (e : Explorer) (active : TargetsByJob) : Explorer :=
  { e with
    jobs := active.mapEntries (fun job ts =>
      (ts.foldl keepTarget ((e.jobs.get? job).getD ∅, ∅)).2) }

def retainJobs (e : Explorer) (keep : String → Bool) : Explorer :=
  { e with
    jobs := e.jobs.filter (fun job _ => keep job)
    stats := e.stats.filter (fun job _ => keep job) }

/-! ## Samples -/

def dequeue (e : Explorer) : Option (Token × Target) × Explorer :=
  match e.queue with
  | [] => (none, e)
  | k :: rest =>
    let e := { e with queue := rest }
    match e.entry? k with
    | none => (none, e)
    | some x => (some (k, x.target), { e with sampling := k :: e.sampling })

def count (e : Explorer) (job : String) (f : JobStats → JobStats) : Explorer :=
  { e with stats := e.stats.alter job (fun s => f (s.getD {})) }

def succeed (e : Explorer) (k : Token) (startedMs durationMs : Nat) (series : Int)
    (x : ExploredTarget) : Explorer :=
  let status := x.status.record startedMs durationMs (.ok (max series x.status.series))
  (e.count k.1 (fun s => { s with explored := s.explored + 1 })).request k
    { x with status, samples := x.samples + 1 }

def fail (e : Explorer) (k : Token) (startedMs durationMs : Nat) (message : String)
    (x : ExploredTarget) : Explorer :=
  let status := x.status.record startedMs durationMs (.error message)
  let e := (e.count k.1 (fun s => { s with failed := s.failed + 1 })).put k
    { x with status, queued := true }
  { e with waiting := k :: e.waiting }

def finish (e : Explorer) (k : Token) (startedMs durationMs : Nat) (outcome : Except String Int) :
    Explorer :=
  let e := { e with sampling := e.sampling.erase k }
  match e.entry? k with
  | none => e
  | some x =>
    match outcome with
    | .ok series => e.succeed k startedMs durationMs series x
    | .error message => e.fail k startedMs durationMs message x

def retry (e : Explorer) (k : Token) : Explorer :=
  let e := { e with waiting := e.waiting.erase k }
  match e.entry? k with
  | none => e
  | some x =>
    let (queued, e) := e.enqueue k
    e.put k { x with queued }

def cancelRetries (e : Explorer) : Explorer := { e with waiting := [] }

def lookup : Lookup Explorer where
  explore job t e := e.get job t
  estimate job h e := e.estimate job h

end Explorer

end ScrapeFleet
