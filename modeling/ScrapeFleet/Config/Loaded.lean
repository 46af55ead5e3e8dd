import ScrapeFleet.Config.Wire
import ScrapeFleet.Toml.Reader
import ScrapeFleet.Digest.Sha256

/-!
Configurations together with the bytes that they were read from.

Shards receive exactly these bytes, and report their digest back.
-/

namespace ScrapeFleet.Config

inductive LoadError where
  | unreadable
  | malformed
  | invalid (fault : Fault)
  deriving DecidableEq, Repr

def LoadError.message : LoadError → String
  | .unreadable => "failed to read config"
  | .malformed => "failed to parse config"
  | .invalid f => "invalid config: " ++ f.message

structure Loaded where
  config : Config
  raw : ByteArray
  hash : String

def parse? (cs : List Char) : Option Config := (Toml.parse? cs).bind (read Toml.view)

def load (raw : ByteArray) : Except LoadError Loaded :=
  match Utf8.decode raw with
  | .error f => .error (.invalid (.notUtf8 f))
  | .ok cs =>
    match parse? cs with
    | none => .error .malformed
    | some config =>
      match config.validate with
      | .error f => .error (.invalid f)
      | .ok () => .ok { config, raw, hash := Sha256.hexDigest raw }

def loadFile (content : Option ByteArray) : Except LoadError Loaded :=
  match content with
  | none => .error .unreadable
  | some raw => load raw

end ScrapeFleet.Config
