import ScrapeFleet.Config
import ScrapeFleet.Net.Uri

/-!
The targets that a configuration lists.

Every listed target is active or dropped: active if all rules of its job keep it by
its discovered labels.
-/

namespace ScrapeFleet

structure TargetSets where
  active : TargetsByJob := ∅
  dropped : TargetsByJob := ∅
  deriving DecidableEq, Repr

namespace Discovery

inductive Fault where
  | invalidUrl (job url : String)
  | noHost (job url : String)
  | config (fault : Config.Fault)
  deriving DecidableEq, Repr

def Fault.message : Fault → String
  | .invalidUrl job url => "discovery error: job " ++ job ++ ": invalid url " ++ Quoted.quote url
  | .noHost job url => "discovery error: job " ++ job ++ ": url " ++ Quoted.quote url ++ " has no host"
  | .config f => "invalid config: " ++ f.message

/-! ## Labels -/

def hiddenMark : List Char := ['_', '_']

def isHidden (name : String) : Bool := hiddenMark.isPrefixOf name.toList

def discoveredLabels (job : String) (u : Uri) (configured : Labels) : Labels :=
  (((configured.insert "__address__" (String.ofList u.authority)).insert
    "__scheme__" ((u.scheme.map String.ofList).getD "http")).insert
    "__metrics_path__" (String.ofList u.shownPath)).insert
    "job" job

/-- The configured labels that are not hidden, with the job, and with the address as the
instance if none is configured. -/
def finalLabels (job : String) (u : Uri) (configured : Labels) : Labels :=
  ((configured.filter (fun k _ => !isHidden k)).insert "job" job).alter "instance"
    (fun old => old.getD (String.ofList u.authority))

def buildTarget (job : String) (t : Config.ListedTarget) : Except Fault Target :=
  match Uri.parse? t.url with
  | none => .error (.invalidUrl job t.url)
  | some u =>
    if u.authority.isEmpty then .error (.noHost job t.url)
    else .ok (.ofLabels job t.url (discoveredLabels job u t.labels) (finalLabels job u t.labels))

/-! ## Sets -/

def addTarget (rules : List Relabel.Filter) (job : String) (sets : TargetSets) (t : Target) :
    TargetSets :=
  if Relabel.keepsAll rules t.discovered then { sets with active := sets.active.add job t }
  else { sets with dropped := sets.dropped.add job t }

def addJob (sets : TargetSets) (j : Config.Job) : Except Fault TargetSets := do
  let rules ← (Config.compileRules j.relabel).mapError .config
  j.targets.foldlM (fun sets t => (buildTarget j.name t).map (addTarget rules j.name sets)) sets

def ofConfig (c : Config) : Except Fault TargetSets := c.jobs.foldlM addJob {}

end Discovery

end ScrapeFleet
