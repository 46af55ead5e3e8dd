import ScrapeFleet.Data.Tree
import ScrapeFleet.Text.Hex

/-!
Writing trees as JSON texts without spaces.
-/

namespace ScrapeFleet.Json

/-! ## Strings -/

def escapeChar (c : Char) : List Char :=
  match c with
  | '"' => ['\\', '"']
  | '\\' => ['\\', '\\']
  | '\x08' => ['\\', 'b']
  | '\x0c' => ['\\', 'f']
  | '\n' => ['\\', 'n']
  | '\r' => ['\\', 'r']
  | '\t' => ['\\', 't']
  | c =>
    if c.toNat < 0x20 then
      ['\\', 'u', '0', '0', Hex.digit (c.toNat / 16), Hex.digit (c.toNat % 16)]
    else [c]

def writeText (s : String) : List Char := '"' :: s.toList.flatMap escapeChar ++ ['"']

/-! ## Numbers -/

def writeInt (n : Int) : List Char :=
  if n < 0 then '-' :: Nat.toDigits 10 n.natAbs else Nat.toDigits 10 n.natAbs

/-- A decimal with a point inside or beside its digits where it has up to 16 places before
the point or up to 5 zeros after it, else with an exponent. -/
def writeDecimal (d : Decimal) : List Char :=
  let ds := Nat.toDigits 10 d.digits
  let n : Int := ds.length
  let point := n + d.exponent
  let body :=
    if d.digits = 0 then ['0', '.', '0']
    else if 0 ≤ d.exponent && point ≤ 16 then
      ds ++ List.replicate d.exponent.toNat '0' ++ ['.', '0']
    else if 0 < point && point ≤ 16 then
      ds.take point.toNat ++ '.' :: ds.drop point.toNat
    else if -5 < point && point ≤ 0 then
      ['0', '.'] ++ List.replicate (-point).toNat '0' ++ ds
    else
      let exp := 'e' :: writeInt (point - 1)
      match ds with
      | [d] => d :: exp
      | d :: more => d :: '.' :: more ++ exp
      | [] => exp
  if d.negative then '-' :: body else body

/-! ## Values -/

mutual

def write : Tree → List Char
  | .null => ['n', 'u', 'l', 'l']
  | .bool true => ['t', 'r', 'u', 'e']
  | .bool false => ['f', 'a', 'l', 's', 'e']
  | .int n => writeInt n
  | .real x => writeDecimal (Decimal.shortest x)
  | .text s => writeText s
  | .list [] => ['[', ']']
  | .list (t :: ts) => '[' :: write t ++ writeItems ts
  | .table [] => ['{', '}']
  | .table ((k, t) :: fs) => '{' :: writeText k.text ++ ':' :: write t ++ writeMembers fs
  | .unreadable => ['n', 'u', 'l', 'l']

def writeItems : List Tree → List Char
  | [] => [']']
  | t :: ts => ',' :: write t ++ writeItems ts

def writeMembers : List (FieldName × Tree) → List Char
  | [] => ['}']
  | (k, t) :: fs => ',' :: writeText k.text ++ ':' :: write t ++ writeMembers fs

end

def encode (t : Tree) : String := String.ofList (write t)

end ScrapeFleet.Json
