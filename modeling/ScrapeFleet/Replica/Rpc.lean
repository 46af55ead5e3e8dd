import ScrapeFleet.Net.Http
import ScrapeFleet.Replica.Endpoint
import ScrapeFleet.Text.Utf8
import ScrapeFleet.Wire

/-!
Requests to a replica over HTTP with JSON bodies, and reading its answers.
-/

namespace ScrapeFleet.Rpc

def userAgent : String := "scrapegrid-coordinator/0.1"

def runtimePath : String := "/api/v1/shard/runtime"

def targetsPath : String := "/api/v1/shard/targets"

def configPath : String := "/api/v1/shard/config"

/-! ## Requests -/

def request (address method path : String) (body : ByteArray) : Http.Request where
  method
  target := path
  headers := [("host", address), ("user-agent", userAgent), ("content-type", "application/json")]
  body

def runtimeRequest (address : String) : Http.Request := request address "GET" runtimePath .empty

def scrapeStatusRequest (address : String) : Http.Request :=
  request address "GET" targetsPath .empty

def pushConfigRequest (address : String) (raw : ByteArray) : Http.Request :=
  request address "POST" configPath raw

def encodeTargets (ts : TargetsByJob) : String := Json.encode (Wire.writeTargets ts)

def pushTargetsRequest (address : String) (ts : TargetsByJob) : Http.Request :=
  request address "POST" targetsPath (encodeTargets ts).toUTF8

/-! ## Answers -/

def body (address : String) : Http.Exchange → Except RequestError ByteArray
  | .broken reason => .error (.transport address reason)
  | .timedOut => .error (.timeout address)
  | .answered status b =>
    if Http.isSuccess status then .ok b
    else .error (.status address status (String.ofList (Utf8.decodeLossy b)))

mutual

/-- What two readings of one text agree on; a text on which they differ is unreadable. -/
def agreed : Tree → Tree → Tree
  | .text s, .text s' => if s = s' then .text s else .unreadable
  | .list ts, .list ts' => .list (agreedItems ts ts')
  | .table fs, .table fs' => ((agreedFields fs fs').map .table).getD .unreadable
  | t, _ => t

def agreedItems : List Tree → List Tree → List Tree
  | t :: ts, t' :: ts' => agreed t t' :: agreedItems ts ts'
  | _, _ => []

def agreedFields : List (FieldName × Tree) → List (FieldName × Tree) →
    Option (List (FieldName × Tree))
  | (k, t) :: fs, (k', t') :: fs' =>
    if k = k' then (agreedFields fs fs').map ((k, agreed t t') :: ·) else none
  | _, _ => some []

end

/-- The tree of a body.  Whether bytes are well-formed matters only for the texts that are read,
so they are told apart by what changes with the mark for a fault. -/
def tree? (b : ByteArray) : Option Tree := do
  let t ← Json.parse? (String.ofList (Utf8.decodeWith '\uFFFD' b))
  let t' ← Json.parse? (String.ofList (Utf8.decodeWith '\uFFFE' b))
  some (agreed t t')

/-- The payload of an envelope; an envelope that reports a failure is a refused request. -/
def decodeEnvelope {α : Type} (r : Tree.Reader α) (address : String) (b : ByteArray) :
    Except RequestError (Option α) :=
  match (tree? b).bind (Envelope.read r Json.view) with
  | none => .error (.decode address "response is not an envelope")
  | some e => e.result.mapError (.status address 200)

def decodeData {α : Type} (r : Tree.Reader α) (address : String) (b : ByteArray) :
    Except RequestError α :=
  match decodeEnvelope r address b with
  | .error e => .error e
  | .ok none => .error (.decode address "response has no data")
  | .ok (some a) => .ok a

def readRuntime (address : String) (x : Http.Exchange) : Except RequestError Runtime := do
  decodeData Wire.readRuntime address (← body address x)

def readScrapeStatus (address : String) (x : Http.Exchange) : Except RequestError StatusMap := do
  decodeData Wire.readStatuses address (← body address x)

def readAcknowledgement (address : String) (x : Http.Exchange) : Except RequestError Unit := do
  discard (decodeEnvelope Json.checkTree address (← body address x))

end ScrapeFleet.Rpc
