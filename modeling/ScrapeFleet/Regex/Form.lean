import ScrapeFleet.Regex.Expr

/-!
Regular expressions in the simplified form in which they are read.

Neighbouring characters are one literal, alternatives that are all characters or all sets
are one set, and elements with which every alternative begins stand once before them.
The simplifications do not change what matches; `Form.expr` gives the plain expression.
-/

namespace ScrapeFleet.Regex

inductive Form where
  | empty
  | literal (cs : List Char)
  /-- One character of a set, which was written where characters are bytes if `bytes`. -/
  | set (bytes : Bool) (s : CodeSet)
  | look (l : Look)
  /-- At least `lo` and at most `hi` copies; `greedy` tells whether more are preferred. -/
  | copies (lo : Nat) (hi : Option Nat) (greedy : Bool) (a : Form)
  | capture (index : Nat) (a : Form)
  | seq (a b : Form)
  | alt (a b : Form)
  deriving DecidableEq, Repr

namespace Form

def fail : Form := .set true .empty

def ofSet (bytes : Bool) (s : CodeSet) : Form :=
  match s.canonical.ranges with
  | [] => fail
  | [(lo, hi)] => if lo = hi then .literal [Char.ofNat lo] else .set bytes ⟨[(lo, hi)]⟩
  | ranges => .set bytes ⟨ranges⟩

/-! ## Lengths -/

/-- The fewest bytes of a text that matches; `none` if a part can match nothing. -/
def minLength : Form → Option Nat
  | .empty => some 0
  | .literal cs => some (cs.foldl (fun n c => n + c.utf8Size) 0)
  | .set _ s => s.ranges.head?.map (fun r => (Char.ofNat r.1).utf8Size)
  | .look _ => some 0
  | .copies lo _ _ a => a.minLength.map (· * lo)
  | .capture _ a => a.minLength
  | .seq a b => a.minLength.bind (fun m => b.minLength.map (m + ·))
  | .alt a b => a.minLength.bind (fun m => b.minLength.map (min m))

/-- Whether every text that matches is empty, and every part can match. -/
def onlyEmpty : Form → Bool
  | .empty => true
  | .literal cs => cs.isEmpty
  | .set _ _ => false
  | .look _ => true
  | .copies _ hi _ a => hi.isSome && a.onlyEmpty
  | .capture _ a => a.onlyEmpty
  | .seq a b => a.onlyEmpty && b.onlyEmpty
  | .alt a b => a.onlyEmpty && b.onlyEmpty

def beginsWith (l : Look) : Form → Bool
  | .look l' => l = l'
  | .copies lo _ _ a => 0 < lo && a.beginsWith l
  | .capture _ a => a.beginsWith l
  | .seq a b => a.beginsWith l || (a.onlyEmpty && b.beginsWith l)
  | .alt a b => a.beginsWith l && b.beginsWith l
  | _ => false

def endsWith (l : Look) : Form → Bool
  | .look l' => l = l'
  | .copies lo _ _ a => 0 < lo && a.endsWith l
  | .capture _ a => a.endsWith l
  | .seq a b => b.endsWith l || (b.onlyEmpty && a.endsWith l)
  | .alt a b => a.endsWith l && b.endsWith l
  | _ => false

/-! ## Sequences -/

def elements : Form → List Form
  | .empty => []
  | .seq a b => a.elements ++ b.elements
  | a => [a]

def joinLiterals : List Form → List Form
  | [] => []
  | .literal cs :: rest =>
    match joinLiterals rest with
    | .literal ds :: more => .literal (cs ++ ds) :: more
    | more => .literal cs :: more
  | a :: rest => a :: joinLiterals rest

def ofElements : List Form → Form
  | [] => .empty
  | [a] => a
  | a :: rest => .seq a (ofElements rest)

def concat (parts : List Form) : Form := ofElements (joinLiterals (parts.flatMap elements))

/-- A number of copies; one copy of what matches only the empty text stands for any more. -/
def repeated (lo : Nat) (hi : Option Nat) (greedy : Bool) (a : Form) : Form :=
  let (lo, hi) := if a.onlyEmpty then (min lo 1, some (min (hi.getD 1) 1)) else (lo, hi)
  if lo = 0 && hi = some 0 then .empty
  else if lo = 1 && hi = some 1 then a
  else .copies lo hi greedy a

/-! ## Alternatives -/

def branches : Form → List Form
  | .alt a b => a.branches ++ b.branches
  | a => [a]

def ofBranches : List Form → Form
  | [] => fail
  | [a] => a
  | a :: rest => .alt a (ofBranches rest)

def character? : Form → Option CodeSet
  | .literal [c] => some (.ofChar c)
  | _ => none

def set? : Form → Option CodeSet
  | .set _ s => some s
  | _ => none

def sharedStart : List Form → List Form → List Form
  | a :: as, b :: bs => if a = b then a :: sharedStart as bs else []
  | _, _ => []

/-- The elements with which every alternative begins and what each has after them; nothing
if one is a single element or none is shared. -/
def factor? (l : List Form) : Option (List Form × List Form) :=
  match l.map elements with
  | [] => none
  | first :: others =>
    let shared := others.foldl sharedStart first
    if shared.isEmpty || (first :: others).any (fun p => p.length < 2) then none
    else some (shared, (first :: others).map (fun p => concat (p.drop shared.length)))

def size : Form → Nat
  | .copies _ _ _ a => a.size + 1
  | .capture _ a => a.size + 1
  | .seq a b => a.size + b.size + 1
  | .alt a b => a.size + b.size + 1
  | _ => 1

def choose : Nat → List Form → Form
  | fuel, l =>
    match l.flatMap branches with
    | [] => fail
    | [a] => a
    | l =>
      match (l.mapM character?).or (l.mapM set?), fuel, factor? l with
      | some sets, _, _ => ofSet false (.ofList sets)
      | none, fuel + 1, some (shared, rests) => concat (shared ++ [choose fuel rests])
      | none, _, _ => ofBranches l

def choice (l : List Form) : Form := choose (l.foldl (fun n a => n + a.size) 0) l

/-! ## The plain expression -/

def expr : Form → Expr
  | .empty => .unit
  | .literal cs => .sequence (cs.map (fun c => .set (.ofChar c)))
  | .set _ s => .set s
  | .look l => .look l
  | .copies lo hi _ a => a.expr.between lo hi
  | .capture _ a => a.expr
  | .seq a b => .seq a.expr b.expr
  | .alt a b => .alt a.expr b.expr

end Form

end ScrapeFleet.Regex
