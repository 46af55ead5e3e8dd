import ScrapeFleet.Exposition
import ScrapeFleet.Config
import ScrapeFleet.Net.Http
import ScrapeFleet.Net.Uri

/-!
Taking one sample of a target over HTTP: the request, and the number of series that the
answer exposes.
-/

namespace ScrapeFleet

inductive ScrapeError where
  | transport (reason : String)
  | status (code : Nat)
  | timeout
  | parse (fault : Exposition.LineFault)
  | unsupported (what : String)
  deriving DecidableEq, Repr

def ScrapeError.message : ScrapeError → String
  | .transport reason => "scrape failed: " ++ reason
  | .status code => "target returned HTTP " ++ Nat.repr code
  | .timeout => "scrape timed out"
  | .parse f => "invalid exposition at line " ++ Nat.repr f.line ++ ": " ++ f.fault.message
  | .unsupported what => "unsupported target url: " ++ what

structure ScrapeSettings where
  timeout : Duration := .ofSecs 10
  rules : List Relabel.Filter := []
  deriving DecidableEq, Repr

namespace Scrape

def settings (c : Config) : Except Config.Fault (SortedMap String ScrapeSettings) :=
  c.jobs.foldlM
    (fun m j => (Config.compileRules j.metricRelabel).map (fun rules =>
      m.insert j.name { timeout := c.jobTimeout j.name, rules }))
    ∅

/-- The settings of a job; an unknown one has the usual timeout and no rules. -/
def settingsFor (m : SortedMap String ScrapeSettings) (job : String) : ScrapeSettings :=
  (m.get? job).getD {}

def userAgent : String := "scrapegrid-explorer/0.1"

def defaultPath : List Char := "/metrics".toList

def request (url : String) : Except ScrapeError (String × Http.Request) :=
  match Uri.parse? url with
  | none => .error (.unsupported url)
  | some u =>
    match u.scheme.filter (· ≠ "http".toList) with
    | some other => .error (.unsupported ("scheme " ++ String.ofList other))
    | none =>
      match u.host? with
      | none => .error (.unsupported (u.text ++ " has no host"))
      | some host =>
        let address := String.ofList host ++ ":" ++ Nat.repr (u.port?.getD 80)
        let target := u.requestTarget?.getD defaultPath
        if target.head? = some '/' then
          .ok (address, {
            method := "GET"
            target := String.ofList target
            headers := [("host", address), ("user-agent", userAgent),
              ("accept", "text/plain;version=0.0.4")] })
        else .error (.transport "invalid request target")

def interpret (s : ScrapeSettings) : Http.Exchange → Except ScrapeError Nat
  | .broken reason => .error (.transport reason)
  | .timedOut => .error .timeout
  | .answered status body =>
    if Http.isSuccess status then
      (Exposition.count s.rules (Utf8.decodeLossy body)).mapError .parse
    else .error (.status status)

def scrape (settings : SortedMap String ScrapeSettings)
    (exchange : String → Http.Request → Http.Exchange) (t : Target) : Except ScrapeError Nat := do
  let (address, r) ← request t.url
  interpret (settingsFor settings t.job) (exchange address r)

end Scrape

end ScrapeFleet
