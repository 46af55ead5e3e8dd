import ScrapeFleet.Data.SortedMap
import ScrapeFleet.Digest.Sha256

/-!
Targets: the endpoints that are scraped.

A target's fingerprint is its identity in the whole fleet: discovery computes it,
shards report statuses under it, and the explorer keys its estimates by it.
-/

namespace ScrapeFleet

/-- The identity of a target, computed from its discovered labels and URL. -/
abbrev Fingerprint := UInt64

abbrev Labels := SortedMap String String

inductive TargetState where
  | normal
  /-- Still scraped here, but another shard has been chosen for it. -/
  | inTransfer
  deriving DecidableEq, Repr, Inhabited

structure Target where
  hash : Fingerprint
  job : String
  url : String
  discovered : Labels := ∅
  labels : Labels := ∅
  series : Int := 0
  state : TargetState := .normal
  deriving DecidableEq, Repr

abbrev TargetsByJob := SortedMap String (List Target)

namespace Fingerprint

/-- Ends a label name; no byte of a text. -/
def nameEnd : UInt8 := 0xff

/-- Ends a label value; no byte of a text. -/
def valueEnd : UInt8 := 0xfe

/-- The bytes that identify a target: every label with its ends, then the URL. -/
def preimage (discovered : Labels) (url : String) : List UInt8 :=
  discovered.entries.flatMap (fun e =>
    e.1.toUTF8.toList ++ nameEnd :: e.2.toUTF8.toList ++ [valueEnd]) ++ url.toUTF8.toList

/-- The first eight bytes of the digest of the identifying bytes, as one word. -/
def ofTarget (discovered : Labels) (url : String) : Fingerprint :=
  let digest := Sha256.digest ⟨(preimage discovered url).toArray⟩
  UInt64.ofNat ((digest.take 8).foldl (fun acc b => acc * 256 + b.toNat) 0)

end Fingerprint

def Target.ofLabels (job url : String) (discovered labels : Labels) : Target :=
  { hash := Fingerprint.ofTarget discovered url, job, url, discovered, labels }

namespace TargetsByJob

def listed (ts : TargetsByJob) : List (String × Target) :=
  ts.entries.flatMap (fun e => e.2.map (e.1, ·))

def hashes (ts : TargetsByJob) : List Fingerprint := ts.listed.map (·.2.hash)

def add (ts : TargetsByJob) (job : String) (t : Target) : TargetsByJob :=
  ts.alter job (fun old => old.getD [] ++ [t])

def count (ts : TargetsByJob) : Nat := (ts.values.map List.length).foldr (· + ·) 0

end TargetsByJob

end ScrapeFleet
