import ScrapeFleet.Target

/-!
What is known of a target from scraping it.
-/

namespace ScrapeFleet

inductive Health where
  | unknown
  | good
  | bad
  deriving DecidableEq, Repr, Inhabited

def Health.label : Health → String
  | .unknown => "unknown"
  | .good => "up"
  | .bad => "down"

structure Status where
  health : Health := .unknown
  series : Int := 0
  /-- Scrapes since the status was last reset. -/
  scrapes : Nat := 0
  lastError : Option String := none
  /-- When the last scrape began, in milliseconds of Unix time. -/
  lastScrape : Option Nat := none
  lastDurationMs : Nat := 0
  state : TargetState := .normal
  shards : SortedSet String := ∅
  deriving DecidableEq, Repr, Inhabited

abbrev StatusMap := SortedMap Fingerprint Status

namespace Status

def fresh (series : Int) : Status := { series }

/-- The number of scrapes after which a target has settled on its shard. -/
def settledAfter : Nat := 3

def isStable (s : Status) : Bool := settledAfter ≤ s.scrapes

def isMovable (s : Status) : Bool := s.isStable && s.state = .normal && s.health = .good

def record (s : Status) (startedMs durationMs : Nat) (outcome : Except String Int) : Status :=
  let s := { s with
    lastScrape := some startedMs, lastDurationMs := durationMs, scrapes := s.scrapes + 1 }
  match outcome with
  | .ok series => { s with health := .good, lastError := none, series }
  | .error e => { s with health := .bad, lastError := some e }

/-- Whether `a` describes a target better than `b`: good health first, then more series. -/
def outranks (a b : Status) : Bool :=
  match decide (a.health = .good), decide (b.health = .good) with
  | true, false => true
  | false, true => false
  | _, _ => b.series < a.series

end Status

structure Runtime where
  headSeries : Int := 0
  configHash : String := ""
  /-- Since when the shard has had no targets, in seconds of Unix time. -/
  idleStartAt : Option Nat := none
  deriving DecidableEq, Repr, Inhabited

end ScrapeFleet
