import ScrapeFleet.Data.Word

/-!
Random numbers below a bound, from draws of 64-bit words.
-/

namespace ScrapeFleet

/-- The draws to come, followed by zeros without end, and the number of those used. -/
structure Draws where
  ahead : List UInt64
  used : Nat := 0
  deriving DecidableEq, Repr

namespace Draws

/-- The greatest lower half of a product that is accepted, so that each number below `bound`
comes from equally many words. -/
def zone (bound : Nat) : Nat := Word.count64 - 1 - (Word.count64 - bound) % bound

def scale? (bound : Nat) (draw : UInt64) : Option Nat :=
  let product := draw.toNat * bound
  if product % Word.count64 ≤ zone bound then some (product / Word.count64) else none

def below (bound : Nat) : List UInt64 → Nat → Nat × Draws
  | [], used => (0, ⟨[], used + 1⟩)
  | v :: rest, used =>
    match scale? bound v with
    | some x => (x, ⟨rest, used + 1⟩)
    | none => below bound rest (used + 1)

def position : List Nat → Nat → Nat
  | [], _ => 0
  | w :: rest, x => if x < w then 0 else position rest (x - w) + 1

/-- A position drawn with the given weights.  The total wraps around as a 64-bit number; if it
is 0, nothing is drawn.  Once it has wrapped, the sums that are searched are out of order, and
such a search may find any of them. -/
def weighted (weights : List Nat) (d : Draws) : Option Nat × Draws :=
  let total := weights.foldr (· + ·) 0 % Word.count64
  if total = 0 then (none, d)
  else
    let (x, d) := below total d.ahead d.used
    (some (position weights x), d)

end Draws

end ScrapeFleet
