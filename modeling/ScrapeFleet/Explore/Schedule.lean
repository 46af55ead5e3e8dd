import ScrapeFleet.Explore.Explorer

/-!
Workers that take samples on a virtual clock.

Time passes in milliseconds and only when it is told to.  Targets do not answer
themselves: for each URL a script says how its next samples turn out and how long
they take.
-/

namespace ScrapeFleet

structure Sample where
  outcome : Except String Int
  delay : Nat := 0

inductive Event where
  | finish (run : Nat) (token : Token) (startedMs : Nat) (sample : Sample)
  | retry (token : Token)
  /-- Something other than sampling, which is left to whoever arranged it. -/
  | other

structure Appointment where
  due : Nat
  event : Event

structure Schedule where
  /-- The time when the clock stood at zero, in milliseconds of Unix time. -/
  epoch : Nat
  clock : Nat := 0
  retryMs : Nat
  scripts : SortedMap String (List Sample) := ∅
  fallback : Sample
  begun : SortedMap String Nat := ∅
  idle : List Nat := []
  runs : Nat := 0
  appointments : List Appointment := []
  stopped : Bool := false

namespace Schedule

/-! ## Samples -/

def takeSample (s : Schedule) (url : String) : Sample × Schedule :=
  let s := { s with begun := s.begun.alter url (fun n => n.getD 0 + 1) }
  match s.scripts.get? url with
  | some (x :: rest) => (x, { s with scripts := s.scripts.insert url rest })
  | _ => (s.fallback, s)

def arrange (s : Schedule) (delay : Nat) (event : Event) : Schedule :=
  { s with appointments := s.appointments ++ [⟨s.clock + delay, event⟩] }

/-- Ends a sample.  A failed one is tried again later, unless the workers were stopped. -/
def conclude (s : Schedule) (e : Explorer) (k : Token) (startedMs : Nat) (x : Sample) :
    Schedule × Explorer :=
  let known := (e.entry? k).isSome
  let e := e.finish k startedMs x.delay x.outcome
  match x.outcome with
  | .ok _ => (s, e)
  | .error _ =>
    if !known then (s, e)
    else if s.stopped then (s, { e with waiting := e.waiting.erase k })
    else (s.arrange s.retryMs (.retry k), e)

def begin (s : Schedule) (e : Explorer) (run : Nat) (k : Token) (t : Target) :
    Schedule × Explorer :=
  let (x, s) := s.takeSample t.url
  let startedMs := s.epoch + s.clock
  if x.delay = 0 then s.conclude e k startedMs x
  else
    ({ s.arrange x.delay (.finish run k startedMs x) with idle := s.idle.erase run }, e)

/-! ## Workers -/

def work : Nat → Schedule → Explorer → Schedule × Explorer
  | 0, s, e => (s, e)
  | fuel + 1, s, e =>
    match s.idle, e.queue with
    | run :: _, _ :: _ =>
      match e.dequeue with
      | (none, e) => work fuel s e
      | (some (k, t), e) =>
        let (s, e) := s.begin e run k t
        work fuel s e
    | _, _ => (s, e)

def known (e : Explorer) : Nat := (e.jobs.values.map (·.size)).foldr (· + ·) 0

/-- Lets idle workers empty the queue; each target adds at most its missing samples to it. -/
def settle (s : Schedule) (e : Explorer) : Schedule × Explorer :=
  work (e.queue.length + Explorer.maxSamples * known e + 1) s e

def start (s : Schedule) (e : Explorer) (workers : Nat) : Schedule × Explorer :=
  let run := s.runs
  let s := { s with runs := run + 1 }
  if s.stopped then (s, e)
  else { s with idle := s.idle ++ List.replicate (max workers 1) run }.settle e

/-! ## Time -/

/-- The earliest appointment up to `limit`; of several the first that was arranged. -/
def earliest? (limit : Nat) (as : List Appointment) : Option Appointment :=
  as.foldl
    (fun best a =>
      if limit < a.due then best
      else
        match best with
        | none => some a
        | some b => if a.due < b.due then some a else some b)
    none

def dropFirst (due : Nat) : List Appointment → List Appointment
  | [] => []
  | a :: rest => if a.due = due then rest else a :: dropFirst due rest

def next? (s : Schedule) (limit : Nat) : Option (Event × Schedule) :=
  (earliest? limit s.appointments).map (fun a =>
    (a.event, { s with clock := a.due, appointments := dropFirst a.due s.appointments }))

def fire (s : Schedule) (e : Explorer) : Event → Schedule × Explorer
  | .finish run k startedMs x =>
    let (s, e) := s.conclude e k startedMs x
    (if s.stopped then s else { s with idle := s.idle ++ [run] }, e)
  | .retry k => (s, e.retry k)
  | .other => (s, e)

def runUntil (limit : Nat) : Nat → Schedule → Explorer → Schedule × Explorer
  | 0, s, e => (s, e)
  | fuel + 1, s, e =>
    match s.next? limit with
    | none => (s, e)
    | some (event, s) =>
      let (s, e) := s.fire e event
      let (s, e) := s.settle e
      runUntil limit fuel s e

/-- Lets the clock go to `time`.  A token takes at least a millisecond from one failure to
the next, which bounds the number of appointments. -/
def advanceTo (s : Schedule) (e : Explorer) (time : Nat) : Schedule × Explorer :=
  let tokens := s.appointments.length + e.queue.length + known e + 1
  let (s, e) := s.settle e
  let (s, e) := runUntil time (2 * tokens * (time - s.clock + 3)) s e
  ({ s with clock := time }, e)

def advance (s : Schedule) (e : Explorer) (ms : Nat) : Schedule × Explorer :=
  s.advanceTo e (s.clock + ms)

/-! ## Stopping -/

def Event.isSampleOf (run : Nat) : Event → Bool
  | .finish r .. => r = run
  | _ => false

/-- Lets idle workers finish what is in the queue, and then ends them; retries are given up,
and so is everything else that is not a sample being taken. -/
def stop (s : Schedule) (e : Explorer) : Schedule × Explorer :=
  let (s, e) := s.settle e
  let samples := s.appointments.filter (fun a =>
    match a.event with
    | .finish .. => true
    | _ => false)
  ({ s with stopped := true, idle := [], appointments := samples }, e.cancelRetries)

def endedRuns (s : Schedule) : Nat :=
  if s.stopped then
    (List.range s.runs).countP (fun run => !s.appointments.any (fun a => Event.isSampleOf run a.event))
  else 0

end Schedule

end ScrapeFleet
