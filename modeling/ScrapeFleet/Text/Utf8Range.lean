import ScrapeFleet.Unicode.CodeSet

/-!
Ranges of characters as ranges of bytes in UTF-8.

A range of characters is cut where the number of bytes changes and where a byte before the
last one changes, unless the later bytes go through all their values.  What remains is
given byte by byte: each byte has a range of its own, and all combinations occur.
-/

namespace ScrapeFleet.Utf8Range

abbrev Bytes := List (Nat × Nat)

def encode (n : Nat) : List Nat :=
  if n < 0x80 then [n]
  else if n < 0x800 then [0xC0 + n / 64, 0x80 + n % 64]
  else if n < 0x10000 then [0xE0 + n / 4096, 0x80 + n / 64 % 64, 0x80 + n % 64]
  else [0xF0 + n / 262144, 0x80 + n / 4096 % 64, 0x80 + n / 64 % 64, 0x80 + n % 64]

/-- Where to cut the range of code points from `lo` to `hi`: the last one of the lower part
and the first one of the upper part, between which there may be surrogates. -/
def cut? (lo hi : Nat) : Option (Nat × Nat) :=
  if lo < 0xE000 && 0xD7FF < hi then some (0xD7FF, 0xE000)
  else
    match [0x7F, 0x7FF, 0xFFFF].find? (fun last => lo ≤ last && last < hi) with
    | some last => some (last, last + 1)
    | none =>
      if hi < 0x80 then none
      else
        [64, 4096, 262144].findSome? (fun block =>
          if lo / block = hi / block then none
          else if lo % block ≠ 0 then
            some ((lo / block + 1) * block - 1, (lo / block + 1) * block)
          else if hi % block ≠ block - 1 then some (hi / block * block - 1, hi / block * block)
          else none)

def split : Nat → Nat → Nat → List Bytes
  | fuel, lo, hi =>
    if hi < lo then []
    else
      match cut? lo hi, fuel with
      | some (last, first), fuel + 1 => split fuel lo last ++ split fuel first hi
      | _, _ => [(encode lo).zip (encode hi)]

def ofSet (s : CodeSet) : List Bytes := s.ranges.flatMap (fun r => split 32 r.1 r.2)

end ScrapeFleet.Utf8Range
