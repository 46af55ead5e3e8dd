import ScrapeFleet.Status

/-!
What matters of an assignment: which targets it has, and in which state each of them is.
-/

namespace ScrapeFleet

structure AssignmentKeys where
  normal : SortedSet Fingerprint
  inTransfer : SortedSet Fingerprint
  deriving DecidableEq, Repr

namespace AssignmentKeys

def ofPairs (pairs : List (Fingerprint × TargetState)) : AssignmentKeys where
  normal := .ofList ((pairs.filter (·.2 = .normal)).map (·.1))
  inTransfer := .ofList ((pairs.filter (·.2 = .inTransfer)).map (·.1))

def has (k : AssignmentKeys) (h : Fingerprint) : TargetState → Bool
  | .normal => k.normal.contains h
  | .inTransfer => k.inTransfer.contains h

def ofTargets (ts : TargetsByJob) : AssignmentKeys :=
  ofPairs (ts.values.flatten.map (fun t => (t.hash, t.state)))

def ofStatuses (m : StatusMap) : AssignmentKeys :=
  ofPairs (m.entries.map (fun e => (e.1, e.2.state)))

end AssignmentKeys

end ScrapeFleet
