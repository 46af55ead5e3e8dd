import ScrapeFleet.Relabel
import ScrapeFleet.Decimal.Literal
import ScrapeFleet.Text.Quoted

/-!
The line format in which targets expose their samples, read as deeply as counting
series needs.

A line is blank, a comment that begins with `#`, or a sample: a metric name, labels in
braces, a value, and anything after it.  The labels of a sample include its metric
name under `__name__`.
-/

namespace ScrapeFleet.Exposition

inductive Fault where
  | noValue
  | badName (name : List Char)
  | badValue (value : List Char)
  | labelWithoutValue
  | badLabelName (name : List Char)
  | unquoted (name : List Char)
  | unterminated (name : List Char)
  | noSeparator
  deriving DecidableEq, Repr

def Fault.message : Fault → String
  | .noValue => "sample has no value"
  | .badName n => "invalid metric name " ++ Quoted.quote (String.ofList n)
  | .badValue v => "invalid sample value " ++ Quoted.quote (String.ofList v)
  | .labelWithoutValue => "label without value"
  | .badLabelName n => "invalid label name " ++ Quoted.quote (String.ofList n)
  | .unquoted n => "label " ++ Quoted.quote (String.ofList n) ++ " value is not quoted"
  | .unterminated n => "label " ++ Quoted.quote (String.ofList n) ++ " value is unterminated"
  | .noSeparator => "expected ',' or '\x7d' after label"

def isLabelChar (c : Char) : Bool := c.isAlphanum || c = '_'

def isMetricChar (c : Char) : Bool := isLabelChar c || c = ':'

def nameLabel : String := "__name__"

/-! ## Reading -/

/-- A quoted value after its opening quote; `\n` is a line break, and a backslash before
any other character stands for that character. -/
def value? : List Char → Option (List Char × List Char)
  | [] => none
  | '"' :: rest => some ([], rest)
  | '\\' :: c :: rest =>
    (value? rest).map (fun (v, after) => ((if c = 'n' then '\n' else c) :: v, after))
  | '\\' :: [] => none
  | c :: rest => (value? rest).map (fun (v, after) => (c :: v, after))

def label (cs : List Char) : Except Fault ((List Char × List Char) × List Char) :=
  match cs.dropWhile (· ≠ '=') with
  | [] => .error .labelWithoutValue
  | _ :: rest =>
    let key := Text.trim (cs.takeWhile (· ≠ '='))
    if key.isEmpty || !key.all isLabelChar then .error (.badLabelName key)
    else
      match Text.trimStart rest with
      | '"' :: quoted =>
        match value? quoted with
        | none => .error (.unterminated key)
        | some (value, after) =>
          match Text.trimStart after with
          | ',' :: more => .ok ((key, value), more)
          | '\x7d' :: more => .ok ((key, value), '\x7d' :: more)
          | _ => .error .noSeparator
      | _ => .error (.unquoted key)

def labels : Nat → Labels → List Char → Except Fault (Labels × List Char)
  | 0, _, _ => .error .labelWithoutValue
  | fuel + 1, ls, cs =>
    match Text.trimStart cs with
    | '\x7d' :: rest => .ok (ls, rest)
    | cs => do
      let ((key, value), rest) ← label cs
      labels fuel (ls.insert (String.ofList key) (String.ofList value)) rest

def sample (line : List Char) : Except Fault Labels :=
  let isEnd := fun c => c = '\x7b' || Text.isBlank c
  let name := line.takeWhile (!isEnd ·)
  match line.dropWhile (!isEnd ·) with
  | [] => .error .noValue
  | c :: rest =>
    if name.isEmpty || !name.all isMetricChar then .error (.badName name)
    else do
      let start : Labels := SortedMap.empty.insert nameLabel (String.ofList name)
      let (ls, rest) ← if c = '\x7b' then labels (rest.length + 1) start rest else .ok (start, rest)
      let value := Text.firstWord rest
      if value.isEmpty then .error .noValue
      else if Literal.isFloat value then .ok ls
      else .error (.badValue value)

/-! ## Counting -/

def line (cs : List Char) : Except Fault (Option Labels) :=
  match Text.trim cs with
  | [] => .ok none
  | '#' :: _ => .ok none
  | cs => (sample cs).map some

structure LineFault where
  line : Nat
  fault : Fault
  deriving DecidableEq, Repr

def countLines (rules : List Relabel.Filter) : Nat → List (List Char) → Except LineFault Nat
  | _, [] => .ok 0
  | n, cs :: rest =>
    match line cs with
    | .error f => .error ⟨n, f⟩
    | .ok none => countLines rules (n + 1) rest
    | .ok (some ls) =>
      (countLines rules (n + 1) rest).map
        (fun k => if Relabel.keepsAll rules ls then k + 1 else k)

def count (rules : List Relabel.Filter) (body : List Char) : Except LineFault Nat :=
  countLines rules 1 (Text.lines body)

end ScrapeFleet.Exposition
