import ScrapeFleet.Data.Word
import ScrapeFleet.Digest.Sha256
import ScrapeFleet.Replica.Endpoint

/-!
A replica that lives in memory and does what it is told, for trying out a fleet without
a network.  Its requests fail by a schedule.
-/

namespace ScrapeFleet

inductive FailureKind where
  | transport
  | status
  | decode
  | timeout
  deriving DecidableEq, Repr

def FailureKind.error (address : String) : FailureKind → RequestError
  | .transport => .transport address "connection refused"
  | .status => .status address 503 "not ready"
  | .decode => .decode address "bad body"
  | .timeout => .timeout address

inductive FailureSchedule where
  | always (kind : FailureKind)
  /-- One entry for each request; after the last one all succeed. -/
  | next (kinds : List (Option FailureKind))
  deriving DecidableEq, Repr

inductive Method where
  | runtime
  | scrapeStatus
  | pushConfig
  | pushTargets
  deriving DecidableEq, Repr

structure InMemory where
  address : String
  runtime : Runtime := {}
  scraping : StatusMap := ∅
  /-- Whether a configuration that is sent is also adopted. -/
  adoptsConfig : Bool := true
  schedule : Method → FailureSchedule := fun _ => .next []
  calls : Method → Nat := fun _ => 0
  configLength : Option Nat := none

namespace InMemory

/-- The status of a target after an assignment: a target that begins its transfer has to
settle anew. -/
def assigned (old : Option Status) (t : Target) : Status :=
  let st := old.getD (.fresh t.series)
  let st := if st.state ≠ t.state && t.state = .inTransfer then { st with scrapes := 0 } else st
  { st with state := t.state }

def adopt (acc : StatusMap × StatusMap) (t : Target) : StatusMap × StatusMap :=
  let (old, new) := acc
  (old.erase t.hash, new.insert t.hash (assigned (old.get? t.hash) t))

def assign (r : InMemory) (ts : TargetsByJob) : InMemory :=
  let scraping := (ts.values.flatten.foldl adopt (r.scraping, ∅)).2
  { r with
    scraping
    runtime := { r.runtime with headSeries := Word.sum (scraping.values.map (·.series)) } }

def begin (m : Method) (r : InMemory) : Option FailureKind × InMemory :=
  let r := { r with calls := fun n => if n = m then r.calls n + 1 else r.calls n }
  match r.schedule m with
  | .always k => (some k, r)
  | .next [] => (none, r)
  | .next (k :: rest) =>
    (k, { r with schedule := fun n => if n = m then .next rest else r.schedule n })

def request {α : Type} (m : Method) (act : InMemory → α × InMemory) : Request InMemory α :=
  fun r =>
    match r.begin m with
    | (some k, r) => (.error (k.error r.address), r)
    | (none, r) =>
      let (a, r) := act r
      (.ok a, r)

def configure (raw : ByteArray) (r : InMemory) : InMemory :=
  let r := { r with configLength := some raw.size }
  if r.adoptsConfig then
    { r with runtime := { r.runtime with configHash := Sha256.hexDigest raw } }
  else r

instance : Endpoint InMemory where
  address := InMemory.address
  runtime := request .runtime (fun r => (r.runtime, r))
  scrapeStatus := request .scrapeStatus (fun r => (r.scraping, r))
  pushConfig raw := request .pushConfig (fun r => ((), r.configure raw))
  pushTargets ts := request .pushTargets (fun r => ((), r.assign ts))

end InMemory

end ScrapeFleet
