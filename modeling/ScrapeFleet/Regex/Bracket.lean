import ScrapeFleet.Regex.Escape

/-!
Bracketed character classes, with nested classes and set operations.

The reader goes from left to right and keeps the classes that are still open on a
stack.
-/

namespace ScrapeFleet.Regex

/-- A part of a class: its characters, and how many levels of syntax it has. -/
structure ClassPart where
  set : CodeSet
  depth : Nat
  deriving Repr

inductive SetOp where
  | inter
  | diff
  | symmDiff
  deriving DecidableEq, Repr

def SetOp.apply : SetOp → CodeSet → CodeSet → CodeSet
  | .inter, a, b => a.inter b
  | .diff, a, b => a.diff b
  | .symmDiff, a, b => a.symmDiff b

structure Bracket where
  negated : Bool
  /-- The left operand of an operator that still waits for its right one. -/
  before : Option (SetOp × ClassPart)
  /-- The parts since the opening bracket or the last operator, latest first. -/
  parts : List ClassPart
  deriving Repr

namespace Bracket

def deepest (parts : List ClassPart) : Nat := parts.foldl (fun d p => max d p.depth) 0

def union (parts : List ClassPart) : ClassPart :=
  ⟨.ofList (parts.map (·.set)), deepest parts + if 2 ≤ parts.length then 1 else 0⟩

def value (f : Flags) (b : Bracket) : ClassPart :=
  let right := union b.parts
  match b.before with
  | none => right
  | some (op, left) =>
    ⟨op.apply (Class.fold f left.set) (Class.fold f right.set),
      max left.depth right.depth + 1⟩

def push (b : Bracket) (p : ClassPart) : Bracket := { b with parts := p :: b.parts }

def operator (f : Flags) (op : SetOp) (b : Bracket) : Bracket :=
  { b with before := some (op, b.value f), parts := [] }

def close (f : Flags) (b : Bracket) : Option ClassPart :=
  let v := b.value f
  (Class.checked f (Class.foldAndNegate f b.negated v.set)).map (⟨·, v.depth + 1⟩)

/-! ## Reading -/

def hyphens (f : Flags) (b : Bracket) : Nat → List Char → Bracket × List Char
  | fuel + 1, '-' :: rest => hyphens f (b.push ⟨.ofChar '-', 0⟩) fuel (skip f rest)
  | _, cs => (b, cs)

/-- Opens a class: what follows its bracket, up to a closing bracket that comes first and
so stands for itself. -/
def start (f : Flags) (cs : List Char) : Bracket × List Char :=
  let (negated, cs) :=
    match skip f cs with
    | '^' :: rest => (true, skip f rest)
    | cs => (false, cs)
  let (b, cs) := hyphens f ⟨negated, none, []⟩ (cs.length + 1) cs
  match b.parts, cs with
  | [], ']' :: rest => (b.push ⟨.ofChar ']', 0⟩, skip f rest)
  | _, _ => (b, cs)

def named? (f : Flags) (cs : List Char) : Option (CodeSet × List Char) :=
  match cs with
  | ':' :: rest =>
    let (negated, rest) :=
      match rest with
      | '^' :: more => (true, more)
      | _ => (false, rest)
    match rest.dropWhile (· ≠ ':') with
    | ':' :: ']' :: after =>
      (Class.ascii? (String.ofList (rest.takeWhile (· ≠ ':')))).map
        (fun s => (Class.foldAndNegate f negated s, after))
    | _ => none
  | _ => none

/-- The next character after what the flags allow between two characters; of a comment
only its mark is passed over. -/
def peek (f : Flags) (cs : List Char) : Option Char :=
  if f.verbose then
    match cs.dropWhile Text.isBlank with
    | '#' :: rest => (rest.dropWhile Text.isBlank).head?
    | rest => rest.head?
  else cs.head?

def item (f : Flags) : List Char → Option (Escape × List Char)
  | [] => none
  | '\\' :: rest => Escape.read f rest
  | c :: rest => some (.char c false, rest)

def allowed (f : Flags) (c : Char) : Bool := f.unicode || c.toNat < 128

def part (f : Flags) : Escape → Option ClassPart
  | .char c _ => if allowed f c then some ⟨.ofChar c, 0⟩ else none
  | .set s => some ⟨s, 0⟩
  | .look _ => none

def range (f : Flags) (cs : List Char) : Option (ClassPart × List Char) := do
  let (first, cs) ← item f cs
  match skip f cs with
  | [] => none
  | '-' :: rest =>
    if peek f rest = some ']' || peek f rest = some '-' then
      (part f first).map (·, '-' :: rest)
    else
      let (second, cs) ← item f (skip f rest)
      match first, second with
      | .char lo _, .char hi _ =>
        if lo ≤ hi && allowed f lo && allowed f hi then
          some (⟨.range lo.toNat hi.toNat, 0⟩, cs)
        else none
      | _, _ => none
  | cs => (part f first).map (·, cs)

/-- Reads up to the bracket that closes the outermost open class; `outer` holds the classes
around the innermost one, nearest first. -/
def run (f : Flags) : Nat → Bracket → List Bracket → List Char → Option (ClassPart × List Char)
  | 0, _, _, _ => none
  | fuel + 1, b, outer, cs =>
    match skip f cs with
    | [] => none
    | '[' :: rest =>
      match named? f rest with
      | some (s, after) => do
        let s ← Class.checked f s
        run f fuel (b.push ⟨s, 0⟩) outer after
      | none =>
        let (inner, after) := start f rest
        run f fuel inner (b :: outer) after
    | ']' :: rest => do
      let p ← b.close f
      match outer with
      | [] => some (p, rest)
      | b :: outer => run f fuel (b.push p) outer rest
    | '&' :: '&' :: rest => run f fuel (b.operator f .inter) outer rest
    | '-' :: '-' :: rest => run f fuel (b.operator f .diff) outer rest
    | '~' :: '~' :: rest => run f fuel (b.operator f .symmDiff) outer rest
    | cs => do
      let (p, after) ← range f cs
      run f fuel (b.push p) outer after

def read (f : Flags) (cs : List Char) : Option (ClassPart × List Char) :=
  let (b, rest) := start f cs
  run f (rest.length + 1) b [] rest

end Bracket

end ScrapeFleet.Regex
