import ScrapeFleet.Data.Word
import ScrapeFleet.Decimal.Binary64

/-!
How overloaded a shard is.

A shard whose load is at least `rate` times the maximum sheds movable targets until
`expected` times the maximum is left of them.  Both factors, the loads and the results
of the arithmetic are values of the 64-bit binary floating-point format.
-/

namespace ScrapeFleet

/-- A degree of overload, its factors in tenths. -/
structure Tier where
  rateTenths : Nat
  expectedTenths : Nat
  deriving DecidableEq, Repr

namespace Tier

/-- The most severe one first. -/
def all : List Tier := [⟨18, 0⟩, ⟨16, 2⟩, ⟨14, 5⟩, ⟨11, 10⟩]

def tenths (n : Nat) : Rat := Binary64.nearest (n / 10)

/-- Whether a load reaches `rate` times the maximum; every positive load does if that is 0. -/
def isReached (head max : Int) (t : Tier) : Bool :=
  if max = 0 then 0 < head
  else tenths t.rateTenths ≤ Binary64.nearest (Binary64.nearest head / Binary64.nearest max)

def of? (head max : Int) : Option Tier := all.find? (isReached head max)

/-- The whole part, as a signed 64-bit number; beyond those the nearest one. -/
def truncate (x : Rat) : Int := max Word.minSigned (min (x.num.tdiv x.den) Word.maxSigned)

def expected (max : Int) (t : Tier) : Int :=
  truncate (Binary64.nearest (tenths t.expectedTenths * Binary64.nearest max))

end Tier

end ScrapeFleet
