import ScrapeFleet.Text.Hex

/-!
Strings, keys and blank space of TOML texts.

Each reader takes the characters before it and returns what it read with the
characters that are left.
-/

namespace ScrapeFleet.Toml

/-! ## Blank space and comments -/

def isSpace (c : Char) : Bool := c = ' ' || c = '\t'

def skipSpace (cs : List Char) : List Char := cs.dropWhile isSpace

def isPlain (c : Char) : Bool := c = '\t' || (0x20 ≤ c.toNat && c.toNat ≠ 0x7F)

def lineBreak? : List Char → Option (List Char)
  | '\n' :: rest => some rest
  | '\r' :: '\n' :: rest => some rest
  | _ => none

def skipComment (cs : List Char) : List Char := cs.dropWhile isPlain

def lineEnd? (cs : List Char) : Option (List Char) :=
  let rest :=
    match skipSpace cs with
    | '#' :: more => skipComment more
    | rest => rest
  if rest.isEmpty then some [] else lineBreak? rest

def skipLines : Nat → List Char → Option (List Char)
  | 0, _ => none
  | fuel + 1, cs =>
    match skipSpace cs with
    | '#' :: rest => (lineBreak? (skipComment rest)).bind (skipLines fuel)
    | '\n' :: rest => skipLines fuel rest
    | '\r' :: rest => (lineBreak? ('\r' :: rest)).bind (skipLines fuel)
    | rest => some rest

/-! ## Strings -/

def codePoint (n : Nat) (cs : List Char) : Option (Char × List Char) :=
  let digits := cs.take n
  if digits.length < n then none
  else (Hex.toNat? digits).bind (fun v =>
    if v.isValidChar then some (Char.ofNat v, cs.drop n) else none)

def escape? : List Char → Option (Char × List Char)
  | 'b' :: rest => some ('\x08', rest)
  | 'f' :: rest => some ('\x0c', rest)
  | 'n' :: rest => some ('\n', rest)
  | 'r' :: rest => some ('\r', rest)
  | 't' :: rest => some ('\t', rest)
  | '"' :: rest => some ('"', rest)
  | '\\' :: rest => some ('\\', rest)
  | 'u' :: rest => codePoint 4 rest
  | 'U' :: rest => codePoint 8 rest
  | _ => none

def basic : Nat → List Char → List Char → Option (List Char × List Char)
  | 0, _, _ => none
  | fuel + 1, acc, cs =>
    match cs with
    | [] => none
    | '"' :: rest => some (acc.reverse, rest)
    | '\\' :: rest => (escape? rest).bind (fun (c, rest) => basic fuel (c :: acc) rest)
    | c :: rest => if isPlain c then basic fuel (c :: acc) rest else none

def literal (cs : List Char) : Option (List Char × List Char) :=
  match cs.dropWhile (fun c => c ≠ '\'' && isPlain c) with
  | '\'' :: rest => some (cs.takeWhile (fun c => c ≠ '\'' && isPlain c), rest)
  | _ => none

/-- After three quotes: up to two more belong to the string that they close. -/
def closing (quote : Char) (acc rest : List Char) : List Char × List Char :=
  let extra := (rest.take 2).takeWhile (· = quote)
  (acc.reverse ++ extra, rest.drop extra.length)

def skipBreaks : List Char → List Char
  | [] => []
  | '\n' :: rest => skipBreaks rest
  | '\r' :: '\n' :: rest => skipBreaks rest
  | c :: rest => if isSpace c then skipBreaks rest else c :: rest

def lineContinuation? (cs : List Char) : Option (List Char) :=
  (lineBreak? (skipSpace cs)).map skipBreaks

def multiLine (quote : Char) (escapes : Bool) :
    Nat → List Char → List Char → Option (List Char × List Char)
  | 0, _, _ => none
  | fuel + 1, acc, cs =>
    match cs with
    | [] => none
    | '\n' :: rest => multiLine quote escapes fuel ('\n' :: acc) rest
    | '\r' :: '\n' :: rest => multiLine quote escapes fuel ('\n' :: acc) rest
    | c :: rest =>
      if c = quote && rest.take 2 = [quote, quote] then some (closing quote acc (rest.drop 2))
      else if escapes && c = '\\' then
        match lineContinuation? rest with
        | some rest => multiLine quote escapes fuel acc rest
        | none => (escape? rest).bind (fun (c, rest) => multiLine quote escapes fuel (c :: acc) rest)
      else if isPlain c then multiLine quote escapes fuel (c :: acc) rest
      else none

/-- A line break right after the opening quotes does not belong to the string. -/
def dropFirstBreak (cs : List Char) : List Char := (lineBreak? cs).getD cs

def string? (cs : List Char) : Option (List Char × List Char) :=
  let fuel := cs.length + 1
  match cs with
  | '"' :: '"' :: '"' :: rest => multiLine '"' true fuel [] (dropFirstBreak rest)
  | '"' :: rest => basic fuel [] rest
  | '\'' :: '\'' :: '\'' :: rest => multiLine '\'' false fuel [] (dropFirstBreak rest)
  | '\'' :: rest => literal rest
  | _ => none

/-! ## Keys -/

def isKeyChar (c : Char) : Bool := c.isAlphanum || c = '_' || c = '-'

def simpleKey (cs : List Char) : Option (List Char × List Char) :=
  match cs with
  | '"' :: rest => basic (rest.length + 1) [] rest
  | '\'' :: rest => literal rest
  | _ =>
    let key := cs.takeWhile isKeyChar
    if key.isEmpty then none else some (key, cs.drop key.length)

def dottedKey : Nat → List Char → Option (List String × List Char)
  | 0, _ => none
  | fuel + 1, cs => do
    let (key, rest) ← simpleKey (skipSpace cs)
    match skipSpace rest with
    | '.' :: more =>
      let (keys, rest) ← dottedKey fuel more
      pure (String.ofList key :: keys, rest)
    | rest => pure ([String.ofList key], rest)

/-- How long a dotted key, and how deep a value, must stay below. -/
def depthLimit : Nat := 80

def key? (cs : List Char) : Option (List String × List Char) :=
  (dottedKey (cs.length + 1) cs).filter (fun k => k.1.length < depthLimit)

end ScrapeFleet.Toml
