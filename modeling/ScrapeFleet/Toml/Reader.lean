import ScrapeFleet.Toml.Text
import ScrapeFleet.Toml.Number
import ScrapeFleet.Toml.Node

/-!
Reading TOML texts as trees.
-/

namespace ScrapeFleet.Toml

def splitLast (keys : List String) : List String × String := (keys.dropLast, keys.getLastD "")

/-! ## Values -/

mutual

def value : Nat → Nat → List Char → Option (Tree × List Char)
  | 0, _, _ => none
  | fuel + 1, depth, cs =>
    match cs with
    | [] => none
    | '"' :: _ => (string? cs).map (fun (s, rest) => (.text (String.ofList s), rest))
    | '\'' :: _ => (string? cs).map (fun (s, rest) => (.text (String.ofList s), rest))
    | '[' :: rest => if depth + 1 < depthLimit then items fuel (depth + 1) [] rest else none
    | '{' :: rest =>
      if depth + 1 < depthLimit then
        match skipSpace rest with
        | '}' :: rest => some (.table [], rest)
        | rest => members fuel (depth + 1) [] rest
      else none
    | 't' :: 'r' :: 'u' :: 'e' :: rest => some (.bool true, rest)
    | 'f' :: 'a' :: 'l' :: 's' :: 'e' :: rest => some (.bool false, rest)
    | c :: _ =>
      if c.isDigit || c = '+' || c = '-' || c = 'i' || c = 'n' then number? cs else none

def items : Nat → Nat → List Tree → List Char → Option (Tree × List Char)
  | 0, _, _, _ => none
  | fuel + 1, depth, acc, cs => do
    match ← skipLines (cs.length + 1) cs with
    | ']' :: rest => some (.list acc.reverse, rest)
    | cs =>
      let (t, rest) ← value fuel depth cs
      match ← skipLines (rest.length + 1) rest with
      | ',' :: rest => items fuel depth (t :: acc) rest
      | ']' :: rest => some (.list (t :: acc).reverse, rest)
      | _ => none

def members : Nat → Nat → Fields → List Char → Option (Tree × List Char)
  | 0, _, _, _ => none
  | fuel + 1, depth, acc, cs => do
    let (keys, rest) ← key? cs
    match rest with
    | '=' :: rest =>
      let (t, rest) ← value fuel depth (skipSpace rest)
      let (path, k) := splitLast keys
      let acc ← acc.put k t path true
      match skipSpace rest with
      | ',' :: rest => members fuel depth acc rest
      | '}' :: rest => some (.table (fieldTrees acc), rest)
      | _ => none
    | _ => none

end

/-! ## Sections -/

def header? (cs : List Char) : Option (Header × List Char) :=
  match cs with
  | '[' :: rest => do
    match ← key? rest with
    | (keys, ']' :: ']' :: rest) =>
      let rest ← lineEnd? rest
      let (path, name) := splitLast keys
      pure (.element path name, rest)
    | _ => none
  | _ => do
    match ← key? cs with
    | (keys, ']' :: rest) =>
      let rest ← lineEnd? rest
      let (path, name) := splitLast keys
      pure (.table path name, rest)
    | _ => none

def entry? (cs : List Char) : Option ((List String × String × Tree) × List Char) := do
  let (keys, rest) ← key? cs
  match rest with
  | '=' :: rest =>
    let cs := skipSpace rest
    let (t, rest) ← value (cs.length + 1) 0 cs
    let rest ← lineEnd? rest
    let (path, k) := splitLast keys
    pure ((path, k, t), rest)
  | _ => none

/-- The sections of a text; `h` is the header above, and `entries` the entries below it so
far, last first. -/
def sections (h : Header) :
    Nat → List (List String × String × Tree) → List Char → Option (List Section)
  | 0, _, _ => none
  | fuel + 1, entries, cs =>
    match skipSpace cs with
    | [] => some [⟨h, entries.reverse⟩]
    | '#' :: rest => (lineEnd? ('#' :: rest)).bind (sections h fuel entries)
    | '\n' :: rest => sections h fuel entries rest
    | '\r' :: rest => (lineBreak? ('\r' :: rest)).bind (sections h fuel entries)
    | '[' :: rest => do
      let (next, rest) ← header? rest
      let more ← sections next fuel [] rest
      pure (⟨h, entries.reverse⟩ :: more)
    | rest => do
      let (e, rest) ← entry? rest
      sections h fuel (e :: entries) rest

def dropMark : List Char → List Char
  | '\ufeff' :: rest => rest
  | cs => cs

def parse? (cs : List Char) : Option Tree := do
  let cs := dropMark cs
  let parts ← sections .root (cs.length + 1) [] cs
  let fields ← parts.foldlM (fun root (s : Section) => s.addTo root) []
  pure (.table (fieldTrees fields))

/-- TOML texts: a list that stands for a record may have surplus items, and the payload of
an enumeration value is an empty table or list. -/
def view : Tree.View :=
  ⟨⟨true, fun t => match t with | .table [] => true | .list [] => true | _ => false⟩, 1000⟩

end ScrapeFleet.Toml
