import ScrapeFleet.Data.Word
import ScrapeFleet.Regex.Bracket
import ScrapeFleet.Regex.Footprint
import ScrapeFleet.Unicode.Recent
import ScrapeFleet.Decimal.Literal

/-!
Reading the text of a regular expression.

The text is a sequence of tokens.  A reader state holds the groups that are still open;
each token changes the state, and the expression is complete when the text ends outside
every group.  An expression is refused when its syntax is nested too deeply or when it
would need too much memory to match.
-/

namespace ScrapeFleet.Regex

structure Piece where
  form : Form
  depth : Nat
  deriving Repr

namespace Piece

def ofSet (f : Flags) (s : CodeSet) : Piece := ⟨.ofSet (!f.unicode) s, 0⟩

def ofClass (f : Flags) (p : ClassPart) : Piece := ⟨.ofSet (!f.unicode) p.set, p.depth⟩

def ofLook (l : Look) : Piece := ⟨.look l, 0⟩

def ofChar (f : Flags) (c : Char) : Piece := ofSet f (Class.fold f (.ofChar c))

def deepest (ps : List Piece) : Nat := ps.foldl (fun d p => max d p.depth) 0

/-- The elements one after another; a change of flags is an element without a piece. -/
def sequence (elements : List (Option Piece)) : Piece :=
  let ps := elements.filterMap id
  ⟨.concat (ps.map (·.form)), deepest ps + if 2 ≤ elements.length then 1 else 0⟩

def choice : List Piece → Piece
  | [p] => p
  | ps => ⟨.choice (ps.map (·.form)), deepest ps + 1⟩

def group (index : Option Nat) (p : Piece) : Piece :=
  ⟨index.elim p.form (fun i => .capture i p.form), p.depth + 1⟩

def repeated (lo : Nat) (hi : Option Nat) (greedy : Bool) (p : Piece) : Piece :=
  ⟨p.form.repeated lo hi greedy, p.depth + 1⟩

end Piece

inductive Token where
  | opening (flags : Flags) (captures : Bool) (name : Option (List Char))
  | closing
  | bar
  | flags (f : Flags)
  | repeating (lo : Nat) (hi : Option Nat) (greedy : Bool)
  | piece (p : Piece)
  deriving Repr

namespace Token

/-! ## Groups and flags -/

def setFlag (value : Bool) (f : Flags) : Char → Option Flags
  | 'i' => some { f with ignoreCase := value }
  | 'm' => some { f with multiLine := value }
  | 's' => some { f with dotAll := value }
  | 'U' => some { f with swapGreed := value }
  | 'u' => some { f with unicode := value }
  | 'R' => some { f with crlf := value }
  | 'x' => some { f with verbose := value }
  | _ => none

def changeFlags (f : Flags) (letters : List Char) : Option Flags :=
  if letters.eraseDups ≠ letters || letters.getLast? = some '-' then none
  else do
    let f ← (letters.takeWhile (· ≠ '-')).foldlM (setFlag true) f
    (letters.dropWhile (· ≠ '-')).tail.foldlM (setFlag false) f

def isNameStart (c : Char) : Bool := c = '_' || Unicode.nameStart.has c

def isNameChar (c : Char) : Bool :=
  c = '_' || c = '.' || c = '[' || c = ']' || Unicode.nameChars.has c

def name? (cs : List Char) : Option (List Char × List Char) :=
  match cs.takeWhile (· ≠ '>'), cs.dropWhile (· ≠ '>') with
  | c :: name, _ :: rest =>
    if isNameStart c && name.all isNameChar then some (c :: name, rest) else none
  | _, _ => none

def namedGroup (f : Flags) (cs : List Char) : Option (Token × List Char) :=
  (name? cs).map (fun (name, rest) => (.opening f true (some name), rest))

def group (f : Flags) (cs : List Char) : Option (Token × List Char) :=
  match skip f cs with
  | '?' :: '=' :: _ => none
  | '?' :: '!' :: _ => none
  | '?' :: '<' :: '=' :: _ => none
  | '?' :: '<' :: '!' :: _ => none
  | '?' :: 'P' :: '<' :: rest => namedGroup f rest
  | '?' :: '<' :: rest => namedGroup f rest
  | '?' :: rest =>
    let isEnd := fun c => c = ':' || c = ')'
    let letters := rest.takeWhile (!isEnd ·)
    match rest.dropWhile (!isEnd ·) with
    | ':' :: after => (changeFlags f letters).map (fun f => (.opening f false none, after))
    | ')' :: after =>
      if letters.isEmpty then none
      else (changeFlags f letters).map (fun f => (.flags f, after))
    | _ => none
  | cs => some (.opening f true none, cs)

/-! ## Repetition -/

/-- The repetition that is followed by `rest`; a question mark there makes it prefer fewer
copies, or more where the flags swap the two. -/
def repetition (f : Flags) (lo : Nat) (hi : Option Nat) (rest : List Char) : Token × List Char :=
  match rest with
  | '?' :: rest => (.repeating lo hi f.swapGreed, rest)
  | rest => (.repeating lo hi (!f.swapGreed), rest)

def bound? (cs : List Char) : Option Nat :=
  let ds := Text.trim cs
  if !ds.isEmpty && ds.all Char.isDigit && Literal.digitsToNat ds < Word.count32 then
    some (Literal.digitsToNat ds)
  else none

def bounds? (inner : List Char) : Option (Nat × Option Nat) :=
  match inner.takeWhile (· ≠ ','), inner.dropWhile (· ≠ ',') with
  | lo, [] => (bound? lo).map (fun n => (n, some n))
  | lo, [_] => (bound? lo).map (fun n => (n, none))
  | lo, _ :: hi => do
    let lo ← bound? lo
    let hi ← bound? hi
    if lo ≤ hi then some (lo, some hi) else none

def counted (f : Flags) (cs : List Char) : Option (Token × List Char) := do
  let (inner, rest) ← braced f.verbose false cs
  let (lo, hi) ← bounds? inner
  pure (repetition f lo hi (skip f rest))

/-! ## Single elements -/

def dot (f : Flags) : Option Token :=
  if !f.unicode then none
  else if f.dotAll then some (.piece (.ofSet f .all))
  else if f.crlf then some (.piece (.ofSet f (CodeSet.compl ⟨[(10, 10), (13, 13)]⟩)))
  else some (.piece (.ofSet f (CodeSet.compl (.single 10))))

def lineStart (f : Flags) : Look :=
  if !f.multiLine then .textStart else if f.crlf then .anyLineStart else .lineStart

def lineEnd (f : Flags) : Look :=
  if !f.multiLine then .textEnd else if f.crlf then .anyLineEnd else .lineEnd

def ofEscape (f : Flags) : Escape → Option Token
  | .char c byte =>
    if !f.unicode && byte && 128 ≤ c.toNat then none else some (.piece (.ofChar f c))
  | .set s => some (.piece (.ofSet f s))
  | .look l => some (.piece (.ofLook l))

def read (f : Flags) (c : Char) (rest : List Char) : Option (Token × List Char) :=
  match c with
  | '(' => group f rest
  | ')' => some (.closing, rest)
  | '|' => some (.bar, rest)
  | '[' => (Bracket.read f rest).map (fun (p, after) => (.piece (.ofClass f p), after))
  | '?' => some (repetition f 0 (some 1) rest)
  | '*' => some (repetition f 0 none rest)
  | '+' => some (repetition f 1 none rest)
  | '\x7b' => counted f rest
  | '.' => (dot f).map (·, rest)
  | '^' => some (.piece (.ofLook (lineStart f)), rest)
  | '$' => some (.piece (.ofLook (lineEnd f)), rest)
  | '\\' => do
    let (e, after) ← Escape.read f rest
    let t ← ofEscape f e
    pure (t, after)
  | c => some (.piece (.ofChar f c), rest)

end Token

namespace Pattern

structure Group where
  /-- The alternatives before the last bar, latest first. -/
  closed : List Piece
  /-- The elements after it, latest first. -/
  current : List (Option Piece)
  deriving Repr

def Group.empty : Group := ⟨[], []⟩

def Group.push (g : Group) (e : Option Piece) : Group := { g with current := e :: g.current }

def Group.bar (g : Group) : Group := ⟨.sequence g.current.reverse :: g.closed, []⟩

def Group.value (g : Group) : Piece :=
  .choice (Piece.sequence g.current.reverse :: g.closed).reverse

structure Outer where
  group : Group
  flags : Flags
  index : Option Nat
  deriving Repr

structure State where
  flags : Flags
  group : Group
  outer : List Outer
  names : List (List Char)
  captures : Nat
  deriving Repr

def State.initial : State := ⟨{}, .empty, [], [], 0⟩

def State.element (s : State) (e : Option Piece) : State := { s with group := s.group.push e }

def State.apply (s : State) : Token → Option State
  | .opening f captures name =>
    let names := name.toList ++ s.names
    if names.eraseDups.length < names.length then none
    else
      let count := s.captures + if captures then 1 else 0
      let index := if captures then some count else none
      some ⟨f, .empty, ⟨s.group, s.flags, index⟩ :: s.outer, names, count⟩
  | .closing =>
    match s.outer with
    | [] => none
    | o :: outer =>
      some { s with
        flags := o.flags, group := o.group.push (some (s.group.value.group o.index)), outer }
  | .bar => some { s with group := s.group.bar }
  | .flags f => some { s.element none with flags := f }
  | .repeating lo hi greedy =>
    match s.group.current with
    | some p :: rest =>
      some { s with group := { s.group with current := some (p.repeated lo hi greedy) :: rest } }
    | _ => none
  | .piece p => some (s.element (some p))

def run : Nat → State → List Char → Option State
  | 0, _, _ => none
  | fuel + 1, s, cs =>
    match skip s.flags cs with
    | [] => some s
    | c :: rest => do
      let (t, after) ← Token.read s.flags c rest
      let s ← s.apply t
      run fuel s after

def maxDepth : Nat := 250

def State.finish (s : State) : Option Expr :=
  let p := s.group.value
  if s.outer.isEmpty && p.depth ≤ maxDepth && p.form.fits then some p.form.expr else none

def parse? (cs : List Char) : Option Expr :=
  (run (cs.length + 1) .initial cs).bind State.finish

end Pattern

end ScrapeFleet.Regex
