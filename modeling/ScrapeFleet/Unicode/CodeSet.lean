/-!
Sets of code points as lists of inclusive ranges, and the compact text form in
which the tables of this folder are written.
-/

namespace ScrapeFleet

/-- A set of code points, given by inclusive ranges. -/
structure CodeSet where
  ranges : List (Nat × Nat)
  deriving DecidableEq, Repr, Inhabited

namespace CodeSet

def top : Nat := 0x10FFFF

def empty : CodeSet := ⟨[]⟩

def all : CodeSet := ⟨[(0, top)]⟩

def single (n : Nat) : CodeSet := ⟨[(n, n)]⟩

def ofChar (c : Char) : CodeSet := single c.toNat

def range (lo hi : Nat) : CodeSet := ⟨[(lo, hi)]⟩

def hasCode (s : CodeSet) (n : Nat) : Bool := s.ranges.any (fun r => r.1 ≤ n && n ≤ r.2)

def has (s : CodeSet) (c : Char) : Bool := s.hasCode c.toNat

/-! ## Canonical form -/

/-- Joins to `r` the ranges that overlap or touch it, and then those after it in the same
way; the list is sorted by lower end. -/
def mergeFrom (r : Nat × Nat) : List (Nat × Nat) → List (Nat × Nat)
  | [] => [r]
  | s :: rest =>
    if s.1 ≤ r.2 + 1 then mergeFrom (r.1, max r.2 s.2) rest else r :: mergeFrom s rest

def merge : List (Nat × Nat) → List (Nat × Nat)
  | [] => []
  | r :: rest => mergeFrom r rest

def canonical (s : CodeSet) : CodeSet :=
  ⟨merge (s.ranges.mergeSort (fun a b => a.1 ≤ b.1))⟩

def gaps : Nat → List (Nat × Nat) → List (Nat × Nat)
  | next, [] => if next ≤ top then [(next, top)] else []
  | next, (lo, hi) :: rest =>
    if next < lo then (next, lo - 1) :: gaps (hi + 1) rest else gaps (hi + 1) rest

/-! ## Set operations -/

def union (a b : CodeSet) : CodeSet := canonical ⟨a.ranges ++ b.ranges⟩

def surrogates : CodeSet := range 0xD800 0xDFFF

def compl (a : CodeSet) : CodeSet := ⟨gaps 0 (a.union surrogates).ranges⟩

def inter (a b : CodeSet) : CodeSet := (a.compl.union b.compl).compl

def diff (a b : CodeSet) : CodeSet := a.inter b.compl

def symmDiff (a b : CodeSet) : CodeSet := (a.union b).diff (a.inter b)

def ofList (l : List CodeSet) : CodeSet := canonical ⟨l.flatMap (·.ranges)⟩

def allBelow (s : CodeSet) (bound : Nat) : Bool := s.ranges.all (fun r => r.2 < bound)

/-! ## Table text

A table is written as base-36 numbers between single spaces: for each range the
distance of its lower end from the previous upper end, then its length less one. -/

def digitValue (c : Char) : Nat :=
  if c.isDigit then c.toNat - 48 else c.toNat - 97 + 10

def numbers (text : String) : List Nat :=
  let step := fun (acc : List Nat × Nat) (c : Char) =>
    if c = ' ' then (acc.2 :: acc.1, 0) else (acc.1, acc.2 * 36 + digitValue c)
  let (done, last) := text.toList.foldl step ([], 0)
  (last :: done).reverse

def rangesFrom : Nat → List Nat → List (Nat × Nat)
  | last, gap :: len :: rest =>
    (last + gap, last + gap + len) :: rangesFrom (last + gap + len) rest
  | _, _ => []

def ofTable (text : String) : CodeSet := ⟨rangesFrom 0 (numbers text)⟩

end CodeSet

end ScrapeFleet
