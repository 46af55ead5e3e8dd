import Std.Data.HashMap
import ScrapeFleet.Regex.Form
import ScrapeFleet.Text.Utf8Range

/-!
The memory that matching an expression takes.

An expression is matched by an automaton on bytes and by another one that reads a text
backwards.  Here the states of both are counted without building them: a state takes a
fixed number of bytes, and what it holds for each of several ways on is counted apart.  The
count stops as soon as it passes the limit, so an expression that asks for billions of
copies is refused at once.
-/

namespace ScrapeFleet.Regex

structure Footprint where
  states : Nat
  extra : Nat
  deriving DecidableEq, Repr

namespace Footprint

def stateBytes : Nat := 32

def branchBytes : Nat := 4

def rangeBytes : Nat := 8

def limit : Nat := 10 * 1024 * 1024

def bytes (m : Footprint) : Nat := stateBytes * m.states + m.extra

def grow (states extra : Nat) (m : Footprint) : Option Footprint :=
  let m : Footprint := ⟨m.states + states, m.extra + extra⟩
  if m.bytes ≤ limit then some m else none

def fork (n : Nat) : Footprint → Option Footprint := grow 1 (branchBytes * n)

def times (f : Footprint → Option Footprint) : Nat → Footprint → Option Footprint
  | 0, m => some m
  | n + 1, m =>
    match f m with
    | none => none
    | some m => times f n m

/-! ## Literals as alternatives

Alternatives that are all literals are followed together, byte by byte, as far as they
agree.  Where one of them ends inside another, those that come after it in the order of
the alternatives are followed apart from those before it. -/

/-- The rests of literals at one point: groups of those that are followed together, latest
first. -/
structure Fan where
  closed : List (List (List Nat))
  current : List (List Nat)

/-- Adds the rest of one more literal; the empty rest closes the group, once if nothing was
added before. -/
def Fan.add (fan : Fan) (suffix : List Nat) : Fan :=
  if !suffix.isEmpty then { fan with current := fan.current ++ [suffix] }
  else if fan.current.isEmpty && !fan.closed.isEmpty && fan.closed.all (·.isEmpty) then fan
  else ⟨fan.current :: fan.closed, []⟩

def Fan.groups (fan : Fan) : List (List (List Nat)) := (fan.current :: fan.closed).reverse

def tails (group : List (List Nat)) : List (List (List Nat)) :=
  (group.filterMap List.head?).eraseDups.map (fun b =>
    (group.filter (fun s => s.head? = some b)).map List.tail)

def fan : Nat → List (List Nat) → Footprint → Option Footprint
  | 0, _, m => some m
  | depth + 1, suffixes, m => do
    let groups := (suffixes.foldl Fan.add ⟨[], []⟩).groups
    let parts := (groups.map tails).filter (fun p => !p.isEmpty)
    let m ← parts.foldlM (fun m part => do
      let m ← grow 1 (if part.length < 2 then 0 else rangeBytes * part.length) m
      (part.filter (fun p => p.any (fun s => !s.isEmpty))).foldlM
        (fun m p => fan depth p m) m) m
    fork (parts.length + (groups.length - 1)) m

def literals? (l : List Form) : Option (List (List Char)) :=
  l.mapM (fun f =>
    match f with
    | .literal cs => some cs
    | _ => none)

def literalBytes (backward : Bool) (cs : List Char) : List Nat :=
  let bytes := cs.flatMap (fun c => Utf8Range.encode c.toNat)
  if backward then bytes.reverse else bytes

/-! ## Sets of characters

The parts of a set in UTF-8 share states: those that agree in their last bytes when read
forwards, those that agree in their first ones when read backwards.  States for sharing are
remembered by a number computed from what they do, and a newer state with the same number
displaces an older one. -/

/-- The states remembered so far, by their numbers, and the number of states in all. -/
structure Shared (α : Type) where
  known : Std.HashMap UInt64 (α × Nat)
  states : Nat

def slot (slots : UInt64) (key : List Nat) : UInt64 :=
  key.foldl (fun h n => (h ^^^ n.toUInt64) * 1099511628211) 14695981039346656037 % slots

def Shared.get {α : Type} [DecidableEq α] (slots : UInt64) (numbers : α → List Nat) (key : α)
    (s : Shared α) : Nat × Shared α :=
  let i := slot slots (numbers key)
  match s.known[i]? with
  | some (k, state) =>
    if k = key then (state, s)
    else (s.states, ⟨s.known.insert i (key, s.states), s.states + 1⟩)
  | none => (s.states, ⟨s.known.insert i (key, s.states), s.states + 1⟩)

abbrev Way := Nat × Nat × Nat

structure Forward where
  shared : Shared (List Way)
  extra : Nat

def Forward.state (ways : List Way) (s : Forward) : Nat × Forward :=
  let (id, shared) :=
    s.shared.get 10000 (fun k => k.flatMap (fun (lo, hi, next) => [lo, hi, next])) ways
  (id, ⟨shared, s.extra + if s.shared.states < shared.states then rangeBytes * ways.length else 0⟩)

def Forward.from (last : Nat) : Nat → List Utf8Range.Bytes → Forward → Nat × Forward
  | 0, _, s => (last, s)
  | depth + 1, parts, s =>
    if parts.all (·.isEmpty) then (last, s)
    else
      let (ways, s) := (parts.splitBy (fun a b => a.head? = b.head?)).foldl
        (fun (ways, s) group =>
          match group.head?.bind List.head? with
          | none => (ways, s)
          | some (lo, hi) =>
            let (next, s) := Forward.from last depth (group.map List.tail) s
            (ways ++ [(lo, hi, next)], s))
        (([] : List Way), s)
      s.state ways

def backwardPart : Utf8Range.Bytes → Nat → Shared Way → Shared Way
  | [], _, s => s
  | (lo, hi) :: rest, state, s =>
    let (state, s) := s.get 1000 (fun (next, lo, hi) => [next, lo, hi]) (state, lo, hi)
    backwardPart rest state s

def set (backward : Bool) (s : CodeSet) (m : Footprint) : Option Footprint :=
  if s.allBelow 128 then grow 2 (rangeBytes * s.ranges.length) m
  else
    let parts := Utf8Range.ofSet s
    if backward then
      let shared := parts.foldl (fun shared p => backwardPart p (m.states + 1) shared)
        ⟨∅, m.states + 2⟩
      grow (shared.states - m.states) (branchBytes * parts.length) m
    else
      let (_, s) := Forward.from m.states 4 parts ⟨⟨∅, m.states + 1⟩, 0⟩
      grow (s.shared.states - m.states) s.extra m

/-! ## Expressions -/

/-- Where a form stands in a choice: nowhere, or as its second or a later alternative with
all that follow. -/
inductive Place where
  | alone
  | second
  | later
  deriving DecidableEq, Repr

def Place.grow (p : Place) (m : Footprint) : Option Footprint :=
  match p with
  | .alone => some m
  | .second => Footprint.grow 2 (branchBytes * 2) m
  | .later => Footprint.grow 0 branchBytes m

def ofForm (backward : Bool) : Form → Place → Footprint → Option Footprint
  | .alt a b, place, m => do
    match place with
    | .alone =>
      match literals? (Form.branches (.alt a b)) with
      | some ls =>
        let m ← grow 1 0 m
        let ls := ls.map (literalBytes backward)
        fan ((ls.map List.length).foldl max 0) ls m
      | none =>
        let m ← ofForm backward a .alone m
        ofForm backward b .second m
    | place =>
      let m ← ofForm backward a .alone m
      let m ← place.grow m
      ofForm backward b .later m
  | .empty, place, m => grow 1 0 m >>= place.grow
  | .literal cs, place, m =>
    grow (cs.foldl (fun n c => n + c.utf8Size) 0) 0 m >>= place.grow
  | .set _ s, place, m => set backward s m >>= place.grow
  | .look _, place, m => grow 1 0 m >>= place.grow
  | .capture _ a, place, m => do
    if backward then
      let m ← ofForm backward a .alone m
      place.grow m
    else
      let m ← grow 1 0 m
      let m ← ofForm backward a .alone m
      let m ← grow 1 0 m
      place.grow m
  | .seq a b, place, m => do
    if backward then
      let m ← ofForm backward b .alone m
      let m ← ofForm backward a .alone m
      place.grow m
    else
      let m ← ofForm backward a .alone m
      let m ← ofForm backward b .alone m
      place.grow m
  | .copies lo hi _ a, place, m => do
    let one := fun m => ofForm backward a .alone m
    match lo, hi with
    | 0, some 1 =>
      let m ← fork 2 m
      let m ← one m
      let m ← grow 1 0 m
      place.grow m
    | 0, none =>
      if a.minLength.any (0 < ·) then
        let m ← fork 2 m
        let m ← one m
        place.grow m
      else
        let m ← one m
        let m ← fork 2 m
        let m ← fork 2 m
        let m ← grow 1 0 m
        place.grow m
    | lo, none =>
      let m ← times one lo m
      let m ← fork 2 m
      place.grow m
    | lo, some hi =>
      if lo = hi then
        let m ← times one lo m
        place.grow m
      else
        let m ← if lo = 0 then grow 1 0 m else times one lo m
        let m ← grow 1 0 m
        let m ← times (fun m => fork 2 m >>= one) (hi - lo) m
        place.grow m

/-- The states of a whole expression; a match that may begin anywhere needs states to skip
what is before it. -/
def ofPattern (backward : Bool) (f : Form) : Option Footprint := do
  let fixed := if backward then f.endsWith .textEnd else f.beginsWith .textStart
  let m ← if fixed then grow 1 0 ⟨0, 0⟩ else grow 3 (branchBytes * 2 + rangeBytes) ⟨0, 0⟩
  if backward then
    let m ← ofForm true f .alone m
    grow 1 0 m
  else
    let m ← grow 1 0 m
    let m ← ofForm false f .alone m
    grow 2 0 m

end Footprint

def Form.fits (f : Form) : Bool :=
  (Footprint.ofPattern false f).isSome && (Footprint.ofPattern true f).isSome

end ScrapeFleet.Regex
