import ScrapeFleet.Regex.Class
import ScrapeFleet.Text.Hex

/-!
Escape sequences of regular expressions, and the white space and comments that the
verbose flag allows between characters.

Readers take the rest of the text and return what they read with what is left, or
`none` where the text is not well formed.
-/

namespace ScrapeFleet.Regex

/-! ## White space and comments -/

/-- Drops white space and comments; `comment` says that the text begins inside a comment,
which lasts to the end of its line. -/
def dropBlanks (comment : Bool) : List Char → List Char
  | [] => []
  | c :: rest =>
    if comment then dropBlanks (c ≠ '\n') rest
    else if Text.isBlank c then dropBlanks false rest
    else if c = '#' then dropBlanks true rest
    else c :: rest

def skip (f : Flags) (cs : List Char) : List Char :=
  if f.verbose then dropBlanks false cs else cs

def braced (verbose comment : Bool) : List Char → Option (List Char × List Char)
  | [] => none
  | c :: rest =>
    if comment then braced verbose (c ≠ '\n') rest
    else if c = '\x7d' then some ([], rest)
    else if verbose && Text.isBlank c then braced verbose false rest
    else if verbose && c = '#' then braced verbose true rest
    else (braced verbose false rest).map (fun (inner, after) => (c :: inner, after))

/-! ## Escapes -/

inductive Escape where
  /-- A character; `byte` says that it was written as two hexadecimal digits, which are a byte
  where characters are not Unicode. -/
  | char (c : Char) (byte : Bool)
  | set (s : CodeSet)
  | look (l : Look)
  deriving Repr

namespace Escape

def isMeta (c : Char) : Bool := "\\.+*?()|[]\x7b\x7d^$#&-~".toList.contains c

def isPlain (c : Char) : Bool :=
  isMeta c || (c.toNat < 128 && !c.isAlphanum && c ≠ '<' && c ≠ '>')

def charOf? (n : Nat) : Option Char := if n.isValidChar then some (Char.ofNat n) else none

def fixedHex (f : Flags) : Nat → Nat → List Char → Option (Nat × List Char)
  | 0, acc, cs => some (acc, cs)
  | n + 1, acc, cs =>
    match skip f cs with
    | [] => none
    | c :: rest => (Hex.value? c).bind (fun d => fixedHex f n (acc * 16 + d) rest)

def hex (f : Flags) (width : Nat) (cs : List Char) : Option (Escape × List Char) :=
  match skip f cs with
  | '\x7b' :: rest => do
    let (inner, after) ← braced f.verbose false rest
    if inner.isEmpty then none
    else
      let c ← (Hex.toNat? inner).bind charOf?
      pure (.char c false, after)
  | cs => do
    let (n, after) ← fixedHex f width 0 cs
    let c ← charOf? n
    pure (.char c (width == 2), after)

def property (f : Flags) (negated : Bool) (cs : List Char) : Option (Escape × List Char) := do
  let (name, after) ←
    match skip f cs with
    | [] => none
    | '\x7b' :: rest => braced f.verbose false rest
    | c :: rest => if c = '\\' then none else some ([c], rest)
  if f.unicode then
    let (other, s) ← Class.property? name
    pure (.set (Class.foldAndNegate f (negated != other) s).canonical, after)
  else none

def isBoundaryLetter (c : Char) : Bool := c.isAlpha || c = '-'

/-- What follows a word boundary escape: a name in braces that picks one side of it, unless
the brace begins a count. -/
def boundary (f : Flags) (cs : List Char) : Option (Escape × List Char) :=
  let ascii := !f.unicode
  let plain := some (Escape.look (.wordBoundary ascii), cs)
  match cs with
  | '\x7b' :: rest =>
    match skip f rest with
    | [] => none
    | c :: more =>
      if !isBoundaryLetter c then plain
      else do
        let (name, after) ← braced f.verbose false (c :: more)
        match String.ofList name with
        | "start" => pure (.look (.wordStart ascii), after)
        | "end" => pure (.look (.wordEnd ascii), after)
        | "start-half" => pure (.look (.wordStartHalf ascii), after)
        | "end-half" => pure (.look (.wordEndHalf ascii), after)
        | _ => none
  | _ => plain

def letter (f : Flags) (c : Char) (rest : List Char) : Option (Escape × List Char) :=
  let ascii := !f.unicode
  match c with
  | 'x' => hex f 2 rest
  | 'u' => hex f 4 rest
  | 'U' => hex f 8 rest
  | 'p' => property f false rest
  | 'P' => property f true rest
  | 'a' => some (.char '\x07' false, rest)
  | 'f' => some (.char '\x0c' false, rest)
  | 't' => some (.char '\t' false, rest)
  | 'n' => some (.char '\n' false, rest)
  | 'r' => some (.char '\r' false, rest)
  | 'v' => some (.char '\x0b' false, rest)
  | 'A' => some (.look .textStart, rest)
  | 'z' => some (.look .textEnd, rest)
  | 'b' => boundary f rest
  | 'B' => some (.look (.notWordBoundary ascii), rest)
  | '<' => some (.look (.wordStart ascii), rest)
  | '>' => some (.look (.wordEnd ascii), rest)
  | c =>
    if isPlain c then some (.char c false, rest)
    else ((Class.letter? f c).bind (Class.checked f)).map (fun s => (.set s, rest))

def read (f : Flags) : List Char → Option (Escape × List Char)
  | [] => none
  | c :: rest => letter f c rest

end Escape

end ScrapeFleet.Regex
