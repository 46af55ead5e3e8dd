/-!
White space, trimming, and splitting text into lines and words.

Everything works on lists of characters.  A blank is a character with the Unicode
`White_Space` property.
-/

namespace ScrapeFleet.Text

def isBlank (c : Char) : Bool :=
  let n := c.toNat
  (9 ≤ n && n ≤ 13) || n = 0x20 || n = 0x85 || n = 0xA0 || n = 0x1680 ||
    (0x2000 ≤ n && n ≤ 0x200A) || n = 0x2028 || n = 0x2029 || n = 0x202F ||
    n = 0x205F || n = 0x3000

def trimStart (cs : List Char) : List Char := cs.dropWhile isBlank

def trimEnd (cs : List Char) : List Char := (cs.reverse.dropWhile isBlank).reverse

def trim (cs : List Char) : List Char := trimEnd (trimStart cs)

def dropTail? (tail cs : List Char) : Option (List Char) :=
  if tail.isSuffixOf cs then some (cs.take (cs.length - tail.length)) else none

/-- The first maximal run of characters without a blank, after leading blanks. -/
def firstWord (cs : List Char) : List Char :=
  (trimStart cs).takeWhile (fun c => !isBlank c)

/-- The pieces between newlines; a newline at the very end starts no further line. -/
def lines (cs : List Char) : List (List Char) :=
  let pieces := cs.splitOn '\n'
  if pieces.getLast? = some [] then pieces.dropLast else pieces

end ScrapeFleet.Text
