import ScrapeFleet.Data.Word
import ScrapeFleet.Status
import ScrapeFleet.Json.Reader
import ScrapeFleet.Json.Writer

/-!
The exchanged form of targets, statuses and load reports: trees with fixed field
names, and the envelope in which shards answer.
-/

namespace ScrapeFleet.Wire

open ScrapeFleet.Tree

/-! ## Small values -/

def readUnsigned : Reader Nat := readNat Word.maxUnsigned

def readSigned : Reader Int := readInt Word.minSigned Word.maxSigned

def readHash : Reader Fingerprint := fun v t => (readUnsigned v t).map UInt64.ofNat

def TargetState.name : TargetState → String
  | .normal => "normal"
  | .inTransfer => "in_transfer"

def readState : Reader TargetState :=
  readEnum [("normal", .normal), ("in_transfer", .inTransfer)]

def Health.name : Health → String
  | .unknown => "unknown"
  | .good => "good"
  | .bad => "bad"

def readHealth : Reader Health :=
  readEnum [("unknown", .unknown), ("good", .good), ("bad", .bad)]

def writeOption {α : Type} (f : α → Tree) : Option α → Tree
  | none => .null
  | some a => f a

def writeNat (n : Nat) : Tree := .int n

def readLabels : Reader Labels := fun v t => (readNamed readText v t).map .ofList

def writeLabels (ls : Labels) : Tree := .table (ls.entries.map (fun e => (e.1, .text e.2)))

/-! ## Targets -/

def readTarget : Reader Target := fun v t => do
  let fs ← fields ["hash", "job", "url", "discovered_labels", "labels", "series", "state"] v t
  pure {
    hash := ← fs.required "hash" readHash
    job := ← fs.required "job" readText
    url := ← fs.required "url" readText
    discovered := ← fs.optional "discovered_labels" readLabels ∅
    labels := ← fs.optional "labels" readLabels ∅
    series := ← fs.optional "series" readSigned 0
    state := ← fs.optional "state" readState .normal }

def writeTarget (t : Target) : Tree := .table [
  ("hash", .int t.hash.toNat),
  ("job", .text t.job),
  ("url", .text t.url),
  ("discovered_labels", writeLabels t.discovered),
  ("labels", writeLabels t.labels),
  ("series", .int t.series),
  ("state", .text (TargetState.name t.state))]

def readTargets : Reader TargetsByJob := fun v t =>
  (readNamed (readList readTarget) v t).map .ofList

def writeTargets (ts : TargetsByJob) : Tree :=
  .table (ts.entries.map (fun e => (e.1, .list (e.2.map writeTarget))))

/-! ## Statuses -/

def readShards : Reader (SortedSet String) := fun v t => (readList readText v t).map .ofList

def readStatus : Reader Status := fun v t => do
  let fs ← fields ["health", "series", "scrape_times", "last_error", "last_scrape",
    "last_scrape_duration_ms", "state", "shards"] v t
  pure {
    health := ← fs.optional "health" readHealth .unknown
    series := ← fs.optional "series" readSigned 0
    scrapes := ← fs.optional "scrape_times" readUnsigned 0
    lastError := ← fs.optional "last_error" (readOption readText) none
    lastScrape := ← fs.optional "last_scrape" (readOption readUnsigned) none
    lastDurationMs := ← fs.optional "last_scrape_duration_ms" readUnsigned 0
    state := ← fs.optional "state" readState .normal
    shards := ← fs.optional "shards" readShards ∅ }

def writeStatus (s : Status) : Tree := .table [
  ("health", .text (Health.name s.health)),
  ("series", .int s.series),
  ("scrape_times", writeNat s.scrapes),
  ("last_error", writeOption .text s.lastError),
  ("last_scrape", writeOption writeNat s.lastScrape),
  ("last_scrape_duration_ms", writeNat s.lastDurationMs),
  ("state", .text (TargetState.name s.state)),
  ("shards", .list (s.shards.keys.map .text))]

/-- The number that a decimal numeral without leading zeros and escapes writes, if it fits 64
bits. -/
def hashKey? (name : FieldName) : Option Fingerprint :=
  let cs := name.text.toList
  if !name.plain || cs.isEmpty || !cs.all Char.isDigit || (cs.length ≠ 1 && cs.head? = some '0') then none
  else
    let n := Literal.digitsToNat cs
    if n ≤ Word.maxUnsigned then some (UInt64.ofNat n) else none

def hashKey (h : Fingerprint) : String := String.ofList (Nat.toDigits 10 h.toNat)

def readStatuses : Reader StatusMap := fun v t =>
  (readTable hashKey? readStatus v t).map .ofList

def writeStatuses (m : StatusMap) : Tree :=
  .table (m.entries.map (fun e => (hashKey e.1, writeStatus e.2)))

/-! ## Load reports -/

def readRuntime : Reader Runtime := fun v t => do
  let fs ← fields ["head_series", "config_hash", "idle_start_at"] v t
  pure {
    headSeries := ← fs.required "head_series" readSigned
    configHash := ← fs.required "config_hash" readText
    idleStartAt := ← fs.optional "idle_start_at" (readOption readUnsigned) none }

def writeRuntime (r : Runtime) : Tree := .table [
  ("head_series", .int r.headSeries),
  ("config_hash", .text r.configHash),
  ("idle_start_at", writeOption writeNat r.idleStartAt)]

end Wire

/-! ## Envelopes -/

structure Envelope (α : Type) where
  success : Bool
  data : Option α := none
  error : Option String := none
  deriving DecidableEq, Repr

namespace Envelope

variable {α : Type}

def ok (data : α) : Envelope α := ⟨true, some data, none⟩

def err (message : String) : Envelope α := ⟨false, none, some message⟩

def result (e : Envelope α) : Except String (Option α) :=
  if e.success then .ok e.data else .error (e.error.getD "unknown error")

open ScrapeFleet.Tree in
def read (r : Reader α) : Reader (Envelope α) := fun v t => do
  let fs ← fields ["success", "data", "error"] v t
  pure {
    success := ← fs.required "success" readBool
    data := ← fs.optional "data" (readOption r) none
    error := ← fs.optional "error" (readOption readText) none }

def write (f : α → Tree) (e : Envelope α) : Tree :=
  let data : Option (FieldName × Tree) := e.data.map (fun d => ("data", f d))
  let error : Option (FieldName × Tree) := e.error.map (fun m => ("error", .text m))
  let success : FieldName × Tree := ("success", .bool e.success)
  .table (success :: (data.toList ++ error.toList))

end Envelope

end ScrapeFleet
