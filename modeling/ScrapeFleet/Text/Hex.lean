/-!
Hexadecimal digits.
-/

namespace ScrapeFleet.Hex

def digit (n : Nat) : Char := Char.ofNat (if n < 10 then 48 + n else 87 + n)

def value? (c : Char) : Option Nat :=
  if '0' ≤ c && c ≤ '9' then some (c.toNat - 48)
  else if 'a' ≤ c && c ≤ 'f' then some (c.toNat - 87)
  else if 'A' ≤ c && c ≤ 'F' then some (c.toNat - 55)
  else none

def ofBytes (bytes : List UInt8) : String :=
  String.ofList (bytes.flatMap (fun b => [digit (b.toNat / 16), digit (b.toNat % 16)]))

def ofNat (n : Nat) : List Char := Nat.toDigits 16 n

def toNat? (cs : List Char) : Option Nat :=
  cs.foldlM (fun acc c => (value? c).map (acc * 16 + ·)) 0

end ScrapeFleet.Hex
