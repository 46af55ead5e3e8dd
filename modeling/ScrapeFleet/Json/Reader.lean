import ScrapeFleet.Data.Word
import ScrapeFleet.Data.Tree
import ScrapeFleet.Text.Hex
import ScrapeFleet.Decimal.Literal

/-!
Reading JSON texts as trees.

Each reader takes the characters before it and returns what it read with the
characters that are left.
-/

namespace ScrapeFleet.Json

def isSpace (c : Char) : Bool := c = ' ' || c = '\n' || c = '\t' || c = '\r'

def skipSpace (cs : List Char) : List Char := cs.dropWhile isSpace

/-! ## Strings -/

def hex4? (a b c d : Char) : Option Nat := Hex.toNat? [a, b, c, d]

def isHigh (n : Nat) : Bool := 0xD800 ≤ n && n ≤ 0xDBFF

def isLow (n : Nat) : Bool := 0xDC00 ≤ n && n ≤ 0xDFFF

def joinPair (hi lo : Nat) : Char := Char.ofNat (0x10000 + (hi - 0xD800) * 1024 + (lo - 0xDC00))

def simpleEscape? (c : Char) : Option Char :=
  match c with
  | '"' => some '"'
  | '\\' => some '\\'
  | '/' => some '/'
  | 'b' => some '\x08'
  | 'f' => some '\x0c'
  | 'n' => some '\n'
  | 'r' => some '\r'
  | 't' => some '\t'
  | _ => none

structure Partial where
  /-- Whether all escapes so far stand for characters. -/
  good : Bool
  /-- The first half of a surrogate pair, if one has just been read. -/
  high : Option Nat
  chars : List Char
  /-- Whether there was no escape so far. -/
  plain : Bool
  deriving Repr

namespace Partial

def start : Partial := ⟨true, none, [], true⟩

def push (p : Partial) (c : Char) : Partial :=
  { p with good := p.good && p.high.isNone, high := none, chars := c :: p.chars }

def pushEscaped (p : Partial) (c : Char) : Partial := { p.push c with plain := false }

def pushUnit (p : Partial) (n : Nat) : Partial :=
  if isLow n then
    match p.high with
    | some h => ⟨p.good, none, joinPair h n :: p.chars, false⟩
    | none => ⟨false, none, p.chars, false⟩
  else if isHigh n then ⟨p.good && p.high.isNone, some n, p.chars, false⟩
  else p.pushEscaped (Char.ofNat n)

def text? (p : Partial) : Option String :=
  if p.good && p.high.isNone then some (String.ofList p.chars.reverse) else none

end Partial

def stringRest (p : Partial) : List Char → Option (Partial × List Char)
  | [] => none
  | '"' :: rest => some (p, rest)
  | '\\' :: 'u' :: a :: b :: c :: d :: rest =>
    match hex4? a b c d with
    | some n => stringRest (p.pushUnit n) rest
    | none => none
  | '\\' :: c :: rest =>
    match simpleEscape? c with
    | some e => stringRest (p.pushEscaped e) rest
    | none => none
  | c :: rest => if c.toNat < 0x20 then none else stringRest (p.push c) rest

/-! ## Numbers -/

def takeWord : Nat → List Char → Nat × List Char
  | acc, [] => (acc, [])
  | acc, c :: rest =>
    let next := acc * 10 + (c.toNat - 48)
    if next < Word.count64 then takeWord next rest else (acc, c :: rest)

/-- A word times a power of ten, rounded after every step; `none` when too great.  A power
below 10⁻³⁰⁸ is applied in parts. -/
def scaleWord : Nat → Rat → Int → Option Rat
  | 0, x, _ => some x
  | fuel + 1, x, e =>
    if x = 0 then some 0
    else if 308 < e then none
    else if 0 ≤ e then
      let y := Binary64.nearestAbs (x * Binary64.nearestAbs (Binary64.tenPow e))
      if Binary64.overflows y then none else some y
    else if -308 ≤ e then
      some (Binary64.nearestAbs (x / Binary64.nearestAbs (Binary64.tenPow (-e))))
    else scaleWord fuel (Binary64.nearestAbs (x / Binary64.nearestAbs (Binary64.tenPow 308))) (e + 308)

/-- The value of a literal with a fraction or an exponent, or with an integer of many digits.
Digits of the integer that do not fit the word count as zeros; those of the fraction are
taken as far as the word allows. -/
def realValue (negative : Bool) (whole frac : List Char) (exponent : Int) : Tree :=
  let (w, wholeLeft) := takeWord 0 whole
  let (w, fracLeft) := takeWord w frac
  let e := (wholeLeft.length : Int) - (frac.length - fracLeft.length : Nat) + exponent
  if w = 0 then .real ⟨negative, 0⟩
  else if e < -100000 then .real ⟨negative, 0⟩
  else
    match scaleWord 400 (Binary64.nearestAbs w) e with
    | some x => .real ⟨negative, x⟩
    | none => .unreadable

def exponent? (cs : List Char) : Option (Int × List Char) :=
  let (sign, body) : Int × List Char := match cs with
    | '-' :: r => (-1, r)
    | '+' :: r => (1, r)
    | _ => (1, cs)
  let (ds, rest) := Literal.digits body
  if ds.isEmpty then none else some (sign * Literal.digitsToNat ds, rest)

def fraction? (cs : List Char) : Option (Option (List Char) × List Char) :=
  match cs with
  | '.' :: r =>
    let (ds, rest) := Literal.digits r
    if ds.isEmpty then none else some (some ds, rest)
  | _ => some (none, cs)

def exponentPart? (cs : List Char) : Option (Option Int × List Char) :=
  match cs with
  | c :: r =>
    if c = 'e' || c = 'E' then (exponent? r).map (fun (e, rest) => (some e, rest))
    else some (none, cs)
  | [] => some (none, [])

/-- The tree of an integer literal: an integer if it fits 64 bits, else a rounded real. -/
def integerValue (negative : Bool) (ds : List Char) : Tree :=
  let n := Literal.digitsToNat ds
  if negative then
    if n = 0 || -(n : Int) < Word.minSigned then realValue true ds [] 0 else .int (-(n : Int))
  else if n ≤ Word.maxUnsigned then .int n
  else realValue false ds [] 0

def unsigned (negative : Bool) (cs : List Char) : Option (Tree × List Char) := do
  let (whole, rest) := Literal.digits cs
  if whole.isEmpty || (whole.length ≠ 1 && whole.head? = some '0') then none
  else
    let (frac, rest) ← fraction? rest
    let (exp, rest) ← exponentPart? rest
    if frac.isNone && exp.isNone then some (integerValue negative whole, rest)
    else some (realValue negative whole (frac.getD []) (exp.getD 0), rest)

def number : List Char → Option (Tree × List Char)
  | '-' :: rest => unsigned true rest
  | cs => unsigned false cs

/-! ## Values -/

def keyword (word : List Char) (t : Tree) (cs : List Char) : Option (Tree × List Char) :=
  if word.isPrefixOf cs then some (t, cs.drop word.length) else none

def stringValue (cs : List Char) : Option (Tree × List Char) :=
  (stringRest .start cs).map (fun (p, rest) =>
    (match p.text? with | some s => .text s | none => .unreadable, rest))

mutual

def value : Nat → List Char → Option (Tree × List Char)
  | 0, _ => none
  | fuel + 1, cs =>
    match skipSpace cs with
    | '{' :: rest =>
      match skipSpace rest with
      | '}' :: more => some (.table [], more)
      | _ => members fuel true [] rest
    | '[' :: rest =>
      match skipSpace rest with
      | ']' :: more => some (.list [], more)
      | _ => items fuel [] rest
    | '"' :: rest => stringValue rest
    | 't' :: rest => keyword ['r', 'u', 'e'] (.bool true) rest
    | 'f' :: rest => keyword ['a', 'l', 's', 'e'] (.bool false) rest
    | 'n' :: rest => keyword ['u', 'l', 'l'] .null rest
    | rest => number rest

def items : Nat → List Tree → List Char → Option (Tree × List Char)
  | 0, _, _ => none
  | fuel + 1, acc, cs =>
    match value fuel cs with
    | none => none
    | some (t, rest) =>
      match skipSpace rest with
      | ',' :: more => items fuel (t :: acc) more
      | ']' :: more => some (.list (t :: acc).reverse, more)
      | _ => none

/-- The members of a table up to its closing brace; `good` says whether all names so far
are text. -/
def members : Nat → Bool → List (FieldName × Tree) → List Char → Option (Tree × List Char)
  | 0, _, _, _ => none
  | fuel + 1, good, acc, cs =>
    match skipSpace cs with
    | '"' :: rest =>
      match stringRest .start rest with
      | none => none
      | some (name, rest) =>
        match skipSpace rest with
        | ':' :: rest =>
          match value fuel rest with
          | none => none
          | some (t, rest) =>
            let acc := (⟨name.text?.getD "", name.plain⟩, t) :: acc
            let good := good && name.text?.isSome
            match skipSpace rest with
            | ',' :: more => members fuel good acc more
            | '}' :: more => some (if good then .table acc.reverse else .unreadable, more)
            | _ => none
        | _ => none
    | _ => none

end

def parse? (s : String) : Option Tree :=
  let cs := s.toList
  match value (cs.length + 1) cs with
  | some (t, rest) => if (skipSpace rest).isEmpty then some t else none
  | none => none

/-- JSON texts: a list that stands for a record has no surplus items, the payload of an
enumeration value is null, and nesting is limited. -/
def view : Tree.View := ⟨⟨false, fun t => match t with | .null => true | _ => false⟩, 128⟩

def decode? {α : Type} (r : Tree.Reader α) (s : String) : Option α :=
  (parse? s).bind (r view)

mutual

/-- Any tree within the depth of the view whose literals all have values. -/
def checkTree : Tree.View → Tree → Option Tree
  | v, .list ts => v.enter.bind (fun v => (checkList v ts).map .list)
  | v, .table fs => v.enter.bind (fun v => (checkFields v fs).map .table)
  | _, .unreadable => none
  | _, t => some t

def checkList : Tree.View → List Tree → Option (List Tree)
  | _, [] => some []
  | v, t :: ts => do
    let t ← checkTree v t
    let ts ← checkList v ts
    pure (t :: ts)

/-- Of members with one name the last one stays. -/
def checkFields : Tree.View → List (FieldName × Tree) → Option (List (FieldName × Tree))
  | _, [] => some []
  | v, (k, t) :: fs => do
    let t ← checkTree v t
    let fs ← checkFields v fs
    pure (if fs.any (fun f => f.1.text = k.text) then fs else (k, t) :: fs)

end

end ScrapeFleet.Json
