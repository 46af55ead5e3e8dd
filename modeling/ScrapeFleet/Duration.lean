import ScrapeFleet.Data.Word
import ScrapeFleet.Decimal.Literal
import ScrapeFleet.Text.Blank

/-!
Lengths of time: their written form in configurations and their short text in reports.
-/

namespace ScrapeFleet

structure Duration where
  nanos : Nat
  deriving DecidableEq, Repr, Inhabited

namespace Duration

def ofSecs (n : Nat) : Duration := ⟨n * 1000000000⟩

/-- `n` times `each` seconds.  The product is a 64-bit number and wraps around beyond. -/
def ofSpans (each n : Nat) : Duration := ofSecs (n * each % Word.count64)

def ofMillis (n : Nat) : Duration := ⟨n * 1000000⟩

def zero : Duration := ⟨0⟩

def isZero (d : Duration) : Bool := d.nanos = 0

def secs (d : Duration) : Nat := d.nanos / 1000000000

def subsecNanos (d : Duration) : Nat := d.nanos % 1000000000

def millis (d : Duration) : Nat := d.nanos / 1000000

/-! ## Reading -/

def unsigned? (digits : List Char) : Option Nat :=
  if digits.isEmpty || !digits.all Char.isDigit then none
  else
    let n := Literal.digitsToNat digits
    if n < Word.count64 then some n else none

def count? : List Char → Option Nat
  | '+' :: digits => unsigned? digits
  | digits => unsigned? digits

/-- The units that may follow the number, in the order in which they are tried. -/
def units : List (List Char × (Nat → Duration)) := [
  (['m', 's'], ofMillis),
  (['s'], ofSecs),
  (['m'], ofSpans 60),
  (['h'], ofSpans 3600),
  ([], ofSecs)]

def parseUnits (cs : List Char) : List (List Char × (Nat → Duration)) → Option Duration
  | [] => none
  | (tail, make) :: rest =>
    match Text.dropTail? tail cs with
    | some number => (count? number).map make
    | none => parseUnits cs rest

/-- Reads `500ms`, `15s`, `2m` or `1h`; a bare number counts seconds. -/
def parse? (s : String) : Option Duration := parseUnits (Text.trim s.toList) units

/-! ## Writing -/

def fraction (n width : Nat) : List Char :=
  let digits := Nat.toDigits 10 n
  let padded := List.replicate (width - digits.length) '0' ++ digits
  match (padded.reverse.dropWhile (· = '0')).reverse with
  | [] => []
  | kept => '.' :: kept

def scaled (n unit width : Nat) (suffix : String) : String :=
  String.ofList (Nat.toDigits 10 (n / unit) ++ fraction (n % unit) width ++ suffix.toList)

def text (d : Duration) : String :=
  if 1000000000 ≤ d.nanos then scaled d.nanos 1000000000 9 "s"
  else if 1000000 ≤ d.nanos then scaled d.nanos 1000000 6 "ms"
  else if 1000 ≤ d.nanos then scaled d.nanos 1000 3 "µs"
  else scaled d.nanos 1 0 "ns"

end Duration

end ScrapeFleet
