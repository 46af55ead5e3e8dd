import ScrapeFleet.Coordinator
import ScrapeFleet.Explore.Schedule
import ScrapeFleet.Replica.InMemory

/-!
A coordinator over replicas in memory, with its workers on a virtual clock.

A loop runs a cycle when it is started and again whenever an interval has passed.
Workers take samples only while the clock goes on, or a loop is started or stopped.
-/

namespace ScrapeFleet

structure Cluster where
  coordinator : Coordinator InMemory
  schedule : Schedule
  looping : Bool := false
  file : Option ByteArray

namespace Cluster

def start (c : Coordinator InMemory) (s : Schedule) : Cluster :=
  let (s, explorer) := s.start c.explorer c.config.config.explore.concurrency
  { coordinator := { c with explorer }, schedule := s, file := some c.config.raw }

def now (c : Cluster) : Nat := (c.schedule.epoch + c.schedule.clock) / 1000

def explore (f : Schedule → Explorer → Schedule × Explorer) (c : Cluster) : Cluster :=
  let (schedule, explorer) := f c.schedule c.coordinator.explorer
  { c with schedule, coordinator := { c.coordinator with explorer } }

def runOnce (c : Cluster) : Except Fleet.Fault Snapshot × Cluster :=
  let (r, coordinator) := c.coordinator.cycle c.now
  (r, { c with coordinator })

def reload (c : Cluster) : Except Coordinator.Fault Config.Loaded × Cluster :=
  let (r, coordinator) := c.coordinator.reload c.file
  (r, { c with coordinator })

/-! ## The loop -/

def intervalMs (c : Cluster) : Nat := c.coordinator.planner.policy.interval.millis

/-- Runs a cycle of a loop and arranges the next one; one that fails is not repeated. -/
def tick (c : Cluster) : Cluster :=
  let c := c.runOnce.2
  { c with schedule := c.schedule.arrange c.intervalMs .other }

def fire (c : Cluster) : Event → Cluster
  | .other => c.tick
  | event => c.explore (fun s e => s.fire e event)

def startLoop (c : Cluster) : Cluster :=
  if c.schedule.stopped then { c with looping := true }
  else { (c.explore Schedule.settle).tick with looping := true }.explore Schedule.settle

/-! ## Time -/

def runUntil (limit : Nat) : Nat → Cluster → Cluster
  | 0, c => c
  | fuel + 1, c =>
    match c.schedule.next? limit with
    | none => c
    | some (event, schedule) =>
      runUntil limit fuel (({ c with schedule }.fire event).explore Schedule.settle)

/-- The most appointments that can come up in `ms` milliseconds: each token has at most two
in one, and so has each target for which a cycle adds a token. -/
def maxAppointments (c : Cluster) (ms : Nat) : Nat :=
  let tokens := c.schedule.appointments.length + c.coordinator.explorer.queue.length +
    Schedule.known c.coordinator.explorer + 1
  2 * (ms + 3) * (tokens + (c.coordinator.targets.active.count + 1) * (ms + 3))

def advance (ms : Nat) (c : Cluster) : Cluster :=
  let limit := c.schedule.clock + ms
  let c := c.explore Schedule.settle
  let c := runUntil limit (c.maxAppointments ms) c
  { c with schedule := { c.schedule with clock := limit } }

def shutdown (c : Cluster) : Bool × Cluster := (c.looping, c.explore Schedule.stop)

end Cluster

end ScrapeFleet
