/-!
Rounding to the 64-bit binary floating-point format.

Values are exact rationals; `nearest` is the rounding step that follows every
operation in that format.  A value has at most 53 significant bits and its last
bit is worth at least 2⁻¹⁰⁷⁴; of two neighbours at equal distance the even one wins.
-/

namespace ScrapeFleet

namespace Binary64

def twoPow : Int → Rat
  | .ofNat n => (Nat.pow 2 n : Rat)
  | .negSucc n => 1 / (Nat.pow 2 (n + 1) : Rat)

def tenPow : Int → Rat
  | .ofNat n => (Nat.pow 10 n : Rat)
  | .negSucc n => 1 / (Nat.pow 10 (n + 1) : Rat)

def log2 (x : Rat) : Int :=
  let k : Int := (Nat.log2 x.num.natAbs : Int) - Nat.log2 x.den
  if twoPow k ≤ x then k else k - 1

/-- The nearest integer; a half goes to the even neighbour. -/
def roundEven (x : Rat) : Int :=
  let f := x.floor
  let rest := x - f
  if rest < 1 / 2 then f
  else if 1 / 2 < rest then f + 1
  else if f % 2 = 0 then f else f + 1

def lastBit (x : Rat) : Rat := twoPow (max (log2 x - 52) (-1074))

/-- The value of the format nearest to a non-negative `x`, without an upper bound. -/
def nearestAbs (x : Rat) : Rat :=
  if x = 0 then 0 else (roundEven (x / lastBit x) : Rat) * lastBit x

def nearest (x : Rat) : Rat := if x < 0 then -nearestAbs (-x) else nearestAbs x

def overflows (x : Rat) : Bool := twoPow 1024 ≤ x

end Binary64

/-- A finite value of the 64-bit format; zero has a sign as well. -/
structure Binary64 where
  negative : Bool
  magnitude : Rat
  deriving DecidableEq, Repr

namespace Binary64

def quotient (n d : Nat) : Binary64 := ⟨false, nearestAbs (nearestAbs n / nearestAbs d)⟩

end Binary64

/-! ## Shortest decimal form -/

/-- A decimal `digits · 10 ^ exponent` with its sign. -/
structure Decimal where
  negative : Bool
  digits : Nat
  exponent : Int
  deriving DecidableEq, Repr

namespace Decimal

def magnitude (d : Decimal) : Rat := d.digits * Binary64.tenPow d.exponent

def width (n : Nat) : Nat := (Nat.toDigits 10 n).length

def log10 (x : Rat) : Int :=
  let k : Int := (width x.num.natAbs : Int) - width x.den
  if Binary64.tenPow k ≤ x then k else k - 1

def candidate? (x : Rat) (n : Nat) : Option (Nat × Int) :=
  let p := log10 x - n + 1
  let unit := Binary64.tenPow p
  let below := (x / unit).floor.toNat
  let fits := fun (d : Nat) => Binary64.nearestAbs (d * unit) = x
  let low := fits below
  let high := fits (below + 1)
  if low && high then
    if x / unit - below ≤ 1 / 2 then some (below, p) else some (below + 1, p)
  else if low then some (below, p)
  else if high then some (below + 1, p)
  else none

def stripZeros : Nat → Nat → Int → Nat × Int
  | 0, d, p => (d, p)
  | fuel + 1, d, p => if d ≠ 0 && d % 10 = 0 then stripZeros fuel (d / 10) (p + 1) else (d, p)

/-- The decimal with the fewest digits that rounds to `x`. -/
def shortest (x : Binary64) : Decimal :=
  if x.magnitude = 0 then ⟨x.negative, 0, 0⟩
  else
    match (List.range 17).findSome? (fun n => candidate? x.magnitude (n + 1)) with
    | some (d, p) =>
      let (d, p) := stripZeros 20 d p
      ⟨x.negative, d, p⟩
    | none => ⟨x.negative, 0, 0⟩

def toBinary64? (d : Decimal) : Option Binary64 :=
  let size := (width d.digits : Int) + d.exponent
  if d.digits = 0 || size < -330 then some ⟨d.negative, 0⟩
  else if 310 < size then none
  else
    let x := Binary64.nearestAbs d.magnitude
    if Binary64.overflows x then none else some ⟨d.negative, x⟩

end Decimal

end ScrapeFleet
