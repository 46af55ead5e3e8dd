import ScrapeFleet.Regex.Expr
import ScrapeFleet.Unicode.Age
import ScrapeFleet.Unicode.ScriptExtension
import ScrapeFleet.Unicode.Segment
import ScrapeFleet.Text.Blank

/-!
Named character classes: the classes of one letter, the bracketed ASCII classes, and
classes by Unicode property.
-/

namespace ScrapeFleet.Regex

structure Flags where
  ignoreCase : Bool := false
  multiLine : Bool := false
  dotAll : Bool := false
  swapGreed : Bool := false
  unicode : Bool := true
  verbose : Bool := false
  crlf : Bool := false
  deriving DecidableEq, Repr

namespace Class

def asciiDigit : CodeSet := ⟨[(48, 57)]⟩

def asciiSpace : CodeSet := ⟨[(9, 13), (32, 32)]⟩

def ascii? (name : String) : Option CodeSet :=
  match name with
  | "alnum" => some ⟨[(48, 57), (65, 90), (97, 122)]⟩
  | "alpha" => some ⟨[(65, 90), (97, 122)]⟩
  | "ascii" => some ⟨[(0, 127)]⟩
  | "blank" => some ⟨[(9, 9), (32, 32)]⟩
  | "cntrl" => some ⟨[(0, 31), (127, 127)]⟩
  | "digit" => some asciiDigit
  | "graph" => some ⟨[(33, 126)]⟩
  | "lower" => some ⟨[(97, 122)]⟩
  | "print" => some ⟨[(32, 126)]⟩
  | "punct" => some ⟨[(33, 47), (58, 64), (91, 96), (123, 126)]⟩
  | "space" => some asciiSpace
  | "upper" => some ⟨[(65, 90)]⟩
  | "word" => some asciiWord
  | "xdigit" => some ⟨[(48, 57), (65, 70), (97, 102)]⟩
  | _ => none

def closeAscii (s : CodeSet) : CodeSet :=
  let letters := (List.range 26).filter (fun i => s.hasCode (65 + i) || s.hasCode (97 + i))
  s.union ⟨letters.flatMap (fun i => [(65 + i, 65 + i), (97 + i, 97 + i)])⟩

def fold (f : Flags) (s : CodeSet) : CodeSet :=
  if !f.ignoreCase then s
  else if f.unicode then Unicode.closeUnderFold s
  else closeAscii s

def negate (f : Flags) (s : CodeSet) : CodeSet :=
  if f.unicode then s.compl else s.compl.inter (.range 0 255)

def foldAndNegate (f : Flags) (negated : Bool) (s : CodeSet) : CodeSet :=
  let s := fold f s
  if negated then negate f s else s

/-- A class that is used as an expression; without Unicode it must be within ASCII, as a
match has to be text. -/
def checked (f : Flags) (s : CodeSet) : Option CodeSet :=
  let s := s.canonical
  if f.unicode || s.allBelow 128 then some s else none

def letter? (f : Flags) (c : Char) : Option CodeSet :=
  let pick := fun (unicode ascii : CodeSet) => if f.unicode then unicode else ascii
  match c with
  | 'd' => some (pick Unicode.decimalNumber asciiDigit)
  | 's' => some (pick Unicode.whiteSpace asciiSpace)
  | 'w' => some (pick Unicode.wordChars asciiWord)
  | 'D' => some (negate f (pick Unicode.decimalNumber asciiDigit))
  | 'S' => some (negate f (pick Unicode.whiteSpace asciiSpace))
  | 'W' => some (negate f (pick Unicode.wordChars asciiWord))
  | _ => none

/-! ## Unicode properties -/

/-- Names are compared without case, spaces, hyphens, underscores and a leading `is`. -/
def normalName (name : List Char) : String :=
  let kept := (name.filter (fun c => c.toNat < 128 && c ≠ ' ' && c ≠ '_' && c ≠ '-')).map
    Char.toLower
  match name.map Char.toLower with
  | 'i' :: 's' :: _ =>
    let rest := kept.drop 2
    if rest = ['c'] then "isc" else String.ofList rest
  | _ => String.ofList kept

def category? (name : String) : Option CodeSet :=
  match name with
  | "any" => some .all
  | "assigned" => (Unicode.category? "cn").map .compl
  | "ascii" => some (.range 0 127)
  | _ => Unicode.category? name

def named? (name : List Char) : Option CodeSet :=
  let n := normalName name
  let property := if n = "cf" || n = "sc" || n = "lc" then none else Unicode.property? n
  (property.or (category? n)).or (Unicode.script? n)

def valued? (name value : List Char) : Option CodeSet :=
  let n := normalName name
  let v := normalName value
  match n with
  | "gc" | "generalcategory" => category? v
  | "sc" | "script" => Unicode.script? v
  | "scx" | "scriptextensions" => Unicode.scriptExtension? v
  | "age" => Unicode.age? v
  | "gcb" | "graphemeclusterbreak" => Unicode.graphemeClass? v
  | "wb" | "wordbreak" => Unicode.wordClass? v
  | "sb" | "sentencebreak" => Unicode.sentenceClass? v
  | _ => none

def splitAt? (sep : List Char) : List Char → Option (List Char × List Char)
  | [] => none
  | c :: rest =>
    if sep.isPrefixOf (c :: rest) then some ([], (c :: rest).drop sep.length)
    else (splitAt? sep rest).map (fun (a, b) => (c :: a, b))

/-- What the text between the braces of a property escape names: a class, and whether all
characters outside it are meant, as after `!=`. -/
def property? (content : List Char) : Option (Bool × CodeSet) :=
  match splitAt? ['!', '='] content with
  | some (n, v) => (valued? n v).map (true, ·)
  | none =>
    ((splitAt? [':'] content).or (splitAt? ['='] content)).elim (named? content)
      (fun (n, v) => valued? n v) |>.map (false, ·)

end Class

end ScrapeFleet.Regex
