import ScrapeFleet.Api.Form
import ScrapeFleet.Api.Route
import ScrapeFleet.Coordinator
import ScrapeFleet.Report.Listing
import ScrapeFleet.Report.Metrics

/-!
What a coordinator answers to requests over HTTP.

Reports come from the last cycle and the configuration in force; no request reaches a
shard.
-/

namespace ScrapeFleet.Api

/-! ## Answers -/

inductive Body where
  | empty
  | json (t : Tree)
  | text (s : String)
  deriving Repr

structure Response where
  status : Nat
  contentType : Option String := none
  body : Body := .empty
  deriving Repr

namespace Response

def json (status : Nat) (t : Tree) : Response := ⟨status, some "application/json", .json t⟩

def text (status : Nat) (contentType s : String) : Response := ⟨status, some contentType, .text s⟩

def plainText : String := "text/plain; charset=utf-8"

def metricsText : String := "text/plain; version=0.0.4; charset=utf-8"

def notFound : Response := { status := 404 }

def methodNotAllowed : Response := { status := 405 }

def badQuery : Response := text 400 plainText "invalid query"

def withoutBody (r : Response) : Response := { r with body := .empty }

end Response

/-! ## Resources -/

def selection? (query : Option (List Char)) : Option Selection :=
  (Form.unique? (query.getD []) "state").bind (fun value =>
    match value with
    | none => some .any
    | some name => Selection.ofName? name)

def summary (s : ShardSummary) : Tree := .table [
  ("id", .text s.id),
  ("changeable", .bool s.changeable),
  ("head_series", .int s.headSeries),
  ("targets", Wire.writeNat s.targets)]

variable {ρ : Type}

def targets (query : Option (List Char)) (c : Coordinator ρ) : Response :=
  match selection? query with
  | none => .badQuery
  | some which => .json 200 (Listing.ofSnapshot c.snapshot which).write

def shards (c : Coordinator ρ) : Response :=
  .json 200 ((Envelope.ok c.snapshot.shards).write (fun l => .list (l.map summary)))

def config (c : Coordinator ρ) : Response :=
  .json 200 ((Envelope.ok c.config).write (fun l => .table [
    ("config", .text (String.ofList (Utf8.decodeLossy l.raw))),
    ("hash", .text l.hash)]))

def metrics (c : Coordinator ρ) : Response :=
  .text 200 Response.metricsText
    (Metric.render (Metric.ofSnapshot c.snapshot c.explorer.stats))

def health : Response := .text 200 Response.plainText "ok"

def reload (file : Option ByteArray) (c : Coordinator ρ) : Response × Coordinator ρ :=
  match c.reload file with
  | (.ok l, c) =>
    (.json 200 ((Envelope.ok l.hash).write (fun h => .table [("hash", .text h)])), c)
  | (.error e, c) => (.json 500 ((Envelope.err e.message : Envelope Tree).write id), c)

/-! ## Requests -/

def handle (file : Option ByteArray) (query : Option (List Char)) (c : Coordinator ρ) :
    Route → Response × Coordinator ρ
  | .targets => (targets query c, c)
  | .shards => (shards c, c)
  | .config => (config c, c)
  | .reload => reload file c
  | .metrics => (metrics c, c)
  | .health => (health, c)

/-- Answers a request for a URI.  A request for the head of a resource gets the answer
without its body. -/
def respond (file : Option ByteArray) (method : String) (u : Uri) (c : Coordinator ρ) :
    Response × Coordinator ρ :=
  match Route.ofPath? u.shownPath with
  | none => (.notFound, c)
  | some r =>
    if r.allows method then
      let (response, c) := handle file u.query c r
      (if method = "HEAD" then response.withoutBody else response, c)
    else (.methodNotAllowed, c)

end ScrapeFleet.Api
