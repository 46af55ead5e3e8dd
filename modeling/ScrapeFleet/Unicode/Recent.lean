import ScrapeFleet.Unicode.Property

/-!
What version 17 of Unicode adds to version 16.

Classes in regular expressions go by version 16; quoting and names go by version 17.
-/

namespace ScrapeFleet.Unicode

def recentVisible : CodeSet := .ofTable <|
  "1ov 0 r1 0 3k 0 2r7 e 3 b 15i 0 251 0 ojc 1 3 0 2 0 t 0 gk2 f ce 1 1j 6 29e p 12k 2 9 8 y 1 " ++
    "2g5 7 g9 17 5 9 fxz o 3 o 7z 4 4qq 7 zu l 2q 36 cg8 2 ce m g g 4pc u 2 l 9 1 34p 0 4f 3 9i 8 " ++
    "ak 3 1f 0 4 0 1m 0 5 0 t 0 5 0 7f 0 10zk 5 4mb b gsj 3bd"

def recentAlphabetic : CodeSet := .ofTable <|
  "1ov 0 r1 0 3k 0 ulu 1 3 0 2 0 t 0 j7z p 12k 2 1f 1 2g5 7 g9 17 fyd o 3 o 7z 4 4qq 7 zu l 2q " ++
    "36 hji u 2 l 9 1 154r 5 4mb b gsj 3bd"

def recentNumeric : CodeSet := .ofTable "1kgw 9 g7f 2"

def recentExtend : CodeSet := .ofTable "5an e 3 b 1c7j 1 2g5 0 2 2 2 0 1471 0 3 0 8 1 6 0"

def nameStart : CodeSet := alphabetic.union recentAlphabetic

def nameChars : CodeSet := CodeSet.ofList [nameStart, numeric, recentNumeric]

/-- Characters that a quoted text shows by their code points: those without a visible form,
those that are drawn as nothing, and those that would attach to the character before them. -/
def hidden : CodeSet :=
  CodeSet.ofList [unprintable.diff recentVisible, defaultIgnorable, graphemeExtend, recentExtend]

end ScrapeFleet.Unicode
