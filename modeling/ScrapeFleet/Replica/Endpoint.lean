import ScrapeFleet.Status

/-!
What a replica of a shard can be asked, and how its answers can fail.
-/

namespace ScrapeFleet

inductive RequestError where
  | transport (address reason : String)
  | status (address : String) (code : Nat) (message : String)
  | decode (address reason : String)
  | timeout (address : String)
  | allReplicasFailed (count : Nat) (last : String)
  | noReplicas
  deriving DecidableEq, Repr

def RequestError.message : RequestError → String
  | .transport address reason => "connection to " ++ address ++ " failed: " ++ reason
  | .status address code message => address ++ " returned " ++ Nat.repr code ++ ": " ++ message
  | .decode address reason => "failed to decode response from " ++ address ++ ": " ++ reason
  | .timeout address => "request to " ++ address ++ " timed out"
  | .allReplicasFailed count last =>
    "all " ++ Nat.repr count ++ " replicas failed, last error: " ++ last
  | .noReplicas => "shard has no replicas"

/-- A request that a replica answers from its state, which it may change. -/
abbrev Request (ρ α : Type) := ρ → Except RequestError α × ρ

/-- Replicas with states of type `ρ`.  An answer may depend on anything in the state, so a
failure can come at any time. -/
class Endpoint (ρ : Type) where
  address : ρ → String
  runtime : Request ρ Runtime
  scrapeStatus : Request ρ StatusMap
  pushConfig : ByteArray → Request ρ Unit
  pushTargets : TargetsByJob → Request ρ Unit

end ScrapeFleet
