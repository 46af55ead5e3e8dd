import ScrapeFleet.Decimal.Binary64

/-!
Number tokens: what a sample value may look like, and the parts of a decimal literal.
-/

namespace ScrapeFleet.Literal

def digits (cs : List Char) : List Char × List Char :=
  (cs.takeWhile Char.isDigit, cs.dropWhile Char.isDigit)

def digitsToNat (cs : List Char) : Nat := cs.foldl (fun acc c => acc * 10 + (c.toNat - 48)) 0

def dropSign : List Char → List Char
  | '+' :: rest => rest
  | '-' :: rest => rest
  | cs => cs

def isExponent : List Char → Bool
  | [] => true
  | c :: rest =>
    if c = 'e' || c = 'E' then
      let ds := dropSign rest
      !ds.isEmpty && ds.all Char.isDigit
    else false

/-- Whether the text is a decimal literal: digits with an optional point among, before or
after them, and an optional exponent. -/
def isDecimal (cs : List Char) : Bool :=
  let (whole, rest) := digits cs
  match rest with
  | '.' :: more =>
    let (frac, tail) := digits more
    (!whole.isEmpty || !frac.isEmpty) && isExponent tail
  | _ => !whole.isEmpty && isExponent rest

/-- Whether the text is a floating-point token: a signed decimal literal, or infinity or
not-a-number in any case of letters. -/
def isFloat (cs : List Char) : Bool :=
  let body := dropSign cs
  let lower := body.map Char.toLower
  isDecimal body || lower = ['i', 'n', 'f'] || lower = ['n', 'a', 'n'] ||
    lower = ['i', 'n', 'f', 'i', 'n', 'i', 't', 'y']

def decimal (negative : Bool) (whole frac : List Char) (exponent : Int) : Decimal :=
  ⟨negative, digitsToNat (whole ++ frac), exponent - frac.length⟩

end ScrapeFleet.Literal
