/-!
The ranges of integers of fixed width, and sums of signed 64-bit numbers, which wrap around
where they leave their range.
-/

namespace ScrapeFleet.Word

def count16 : Nat := 0x10000

def count32 : Nat := 0x100000000

def count64 : Nat := 0x10000000000000000

def maxUnsigned : Nat := 0xffffffffffffffff

def maxSigned : Int := 0x7fffffffffffffff

def minSigned : Int := -0x8000000000000000

def maxSigned32 : Int := 0x7fffffff

def minSigned32 : Int := -0x80000000

/-! ## Wrapping around -/

/-- The signed 64-bit number that equals `n` but for a multiple of the number of words. -/
def wrap (n : Int) : Int := n.bmod count64

def add (a b : Int) : Int := wrap (a + b)

def sub (a b : Int) : Int := wrap (a - b)

def sum (l : List Int) : Int := l.foldl add 0

end ScrapeFleet.Word
