import ScrapeFleet.CommandLine
import ScrapeFleet.Json.Writer

/-!
The program.

A running coordinator serves the requests that come as lines on standard input, such as
`GET /metrics`, until the input ends.  It runs a cycle at the start, and another one before
a request if an interval has passed; after a cycle it samples what is in the queue.  The
program itself has no transport, so that every exchange with a replica or a target fails;
a program that has one gives its own exchange.
-/

namespace ScrapeFleet.Program

open CommandLine

def readFile (path : String) : IO (Option ByteArray) := do
  try
    return some (← IO.FS.readBinFile path)
  catch _ => return none

def exchange (_ : String) (_ : Http.Request) : Http.Exchange := .broken "no transport"

def connect (address : String) : Remote := ⟨address, exchange address⟩

def printLines (lines : List String) : IO Unit := lines.forM IO.println

def bodyText : Api.Body → String
  | .empty => ""
  | .json t => Json.encode t
  | .text s => s

/-- As many draws as a cycle uses, unless many are refused. -/
def randomDraws (n : Nat) : IO Draws := do
  let words ← (List.range (2 * n)).mapM (fun _ => IO.rand 0 Word.maxUnsigned)
  return ⟨words.map UInt64.ofNat, 0⟩

/-- Runs a cycle if one is due, and returns when the next one is.  Times are those of a clock
that only goes forward. -/
def cycleIfDue (c : Coordinator Remote) (due : Nat) : IO (Coordinator Remote × Nat) := do
  let now ← IO.monoMsNow
  if now < due then return (c, due)
  let draws ← randomDraws c.targets.active.count
  let c := { c with planner := { c.planner with draws } }.retryAll
  let (outcome, c) := c.cycle (now / 1000)
  match outcome with
  | .ok _ => pure ()
  | .error f => IO.eprintln f.message
  let c := (List.range c.explorer.queue.length).foldl (fun c _ => c.sampleNext exchange now) c
  return (c, now + c.planner.policy.interval.millis)

def answer (path : String) (line : String) (c : Coordinator Remote) : IO (Coordinator Remote) := do
  match line.splitOn " " with
  | [method, target] =>
    match Uri.parse? target with
    | none => IO.println 400; return c
    | some u =>
      let (response, c) := Api.respond (← readFile path) method u c
      IO.println response.status
      IO.println (bodyText response.body)
      return c
  | _ => return c

partial def serve (path : String) (c : Coordinator Remote) (due : Nat) : IO Unit := do
  let line ← (← IO.getStdin).getLine
  if line.isEmpty then return
  let (c, due) ← cycleIfDue c due
  serve path (← answer path line.trimAscii.toString c) due

def execute (i : Invocation) : IO Exit := do
  match i.command with
  | .check path =>
    match check path (← readFile path) with
    | .ok lines => printLines lines; return .success
    | .error f => IO.eprintln (complaint f); return .failure
  | .run path =>
    match coordinator connect ⟨[], 0⟩ (← readFile path) with
    | .error f => IO.eprintln (complaint f); return .failure
    | .ok c =>
      let (c, due) ← cycleIfDue c 0
      serve path c due
      return .success

end ScrapeFleet.Program

open ScrapeFleet CommandLine Program in
def main (args : List String) : IO UInt32 := do
  let exit ← match CommandLine.parse args with
    | .ok i => execute i
    | .error r =>
      printLines usage
      pure r.exit
  return UInt32.ofNat exit.code
