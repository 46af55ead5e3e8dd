import ScrapeFleet.Data.Word
import ScrapeFleet.Data.Tree
import ScrapeFleet.Decimal.Literal
import ScrapeFleet.Text.Hex

/-!
Numbers and dates of TOML texts.
-/

namespace ScrapeFleet.Toml

/-! ## Digits -/

/-- Digits after a first one; an underscore may stand between two digits. -/
def moreDigits (isDigit : Char → Bool) : List Char → Option (List Char × List Char)
  | [] => some ([], [])
  | '_' :: c :: rest =>
    if isDigit c then (moreDigits isDigit rest).map (fun (ds, rest) => (c :: ds, rest)) else none
  | c :: rest =>
    if isDigit c then (moreDigits isDigit rest).map (fun (ds, rest) => (c :: ds, rest))
    else if c = '_' then none
    else some ([], c :: rest)

def digits1 (isDigit : Char → Bool) : List Char → Option (List Char × List Char)
  | c :: rest =>
    if isDigit c then (moreDigits isDigit rest).map (fun (ds, rest) => (c :: ds, rest)) else none
  | [] => none

def wholePart : List Char → Option (List Char × List Char)
  | '0' :: rest => some (['0'], rest)
  | cs => digits1 Char.isDigit cs

/-! ## Integers and floats -/

def intOf (negative : Bool) (n : Nat) : Option Tree :=
  let k : Int := if negative then -n else n
  if Word.minSigned ≤ k && k ≤ Word.maxSigned then some (.int k) else none

def based (base : Nat) (cs : List Char) : Option (Tree × List Char) := do
  let value := fun c => (Hex.value? c).filter (· < base)
  let (ds, rest) ← digits1 (fun c => (value c).isSome) cs
  let t ← intOf false (ds.foldl (fun n c => n * base + (value c).getD 0) 0)
  pure (t, rest)

def exponent (cs : List Char) : Option (Int × List Char) :=
  match cs with
  | c :: rest =>
    if c = 'e' || c = 'E' then do
      let (negative, rest) :=
        match rest with
        | '-' :: more => (true, more)
        | '+' :: more => (false, more)
        | _ => (false, rest)
      let (ds, rest) ← digits1 Char.isDigit rest
      let n := Literal.digitsToNat ds
      pure (if negative then -(n : Int) else n, rest)
    else some (0, cs)
  | [] => some (0, [])

/-- The value of a float; one that is too great is an error only if it is positive. -/
def floatOf (negative : Bool) (whole frac : List Char) (e : Int) : Option Tree :=
  match (Literal.decimal negative whole frac e).toBinary64? with
  | some x => some (.real x)
  | none => if negative then some .unreadable else none

def decimalNumber (negative : Bool) (cs : List Char) : Option (Tree × List Char) := do
  let (whole, rest) ← wholePart cs
  match rest with
  | '.' :: more => do
    let (frac, rest) ← digits1 Char.isDigit more
    let (e, rest) ← exponent rest
    let t ← floatOf negative whole frac e
    pure (t, rest)
  | c :: _ =>
    if c = 'e' || c = 'E' then
      let (e, rest) ← exponent rest
      let t ← floatOf negative whole [] e
      pure (t, rest)
    else
      let t ← intOf negative (Literal.digitsToNat whole)
      pure (t, rest)
  | [] => do
    let t ← intOf negative (Literal.digitsToNat whole)
    pure (t, [])

def signed (negative : Bool) (cs : List Char) : Option (Tree × List Char) :=
  match cs with
  | 'i' :: 'n' :: 'f' :: rest => some (.unreadable, rest)
  | 'n' :: 'a' :: 'n' :: rest => some (.unreadable, rest)
  | _ => decimalNumber negative cs

/-! ## Dates and times -/

def twoDigits (lo hi : Nat) : List Char → Option (Nat × List Char)
  | a :: b :: rest =>
    let n := Literal.digitsToNat [a, b]
    if a.isDigit && b.isDigit && lo ≤ n && n ≤ hi then some (n, rest) else none
  | _ => none

def pad (width n : Nat) : List Char :=
  let ds := Nat.toDigits 10 n
  List.replicate (width - ds.length) '0' ++ ds

def isLeapYear (y : Nat) : Bool := y % 4 = 0 && (y % 100 ≠ 0 || y % 400 = 0)

def daysInMonth (y m : Nat) : Nat :=
  if m = 2 then (if isLeapYear y then 29 else 28)
  else if m = 4 || m = 6 || m = 9 || m = 11 then 30 else 31

def isDate : List Char → Bool
  | a :: b :: c :: d :: '-' :: _ => [a, b, c, d].all Char.isDigit
  | _ => false

def isTime : List Char → Bool
  | a :: b :: ':' :: _ => a.isDigit && b.isDigit
  | _ => false

def date? (cs : List Char) : Option (List Char × List Char) := do
  let year := cs.take 4
  let (month, rest) ← twoDigits 1 12 (cs.drop 5)
  match rest with
  | '-' :: rest =>
    let (day, rest) ← twoDigits 1 31 rest
    if day ≤ daysInMonth (Literal.digitsToNat year) month then
      some (year ++ '-' :: pad 2 month ++ '-' :: pad 2 day, rest)
    else none
  | _ => none

/-- The fraction of a second, if there is one: up to nine digits count, without zeros at
the end. -/
def secondFraction (cs : List Char) : List Char × List Char :=
  match cs with
  | '.' :: rest =>
    let ds := rest.takeWhile Char.isDigit
    if ds.isEmpty then ([], cs)
    else
      let kept := ((ds.take 9).reverse.dropWhile (· = '0')).reverse
      (if kept.isEmpty then [] else '.' :: kept, rest.drop ds.length)
  | _ => ([], cs)

def colon? : List Char → Option (List Char)
  | ':' :: rest => some rest
  | _ => none

def time? (cs : List Char) : Option (List Char × List Char) := do
  let (hour, rest) ← twoDigits 0 23 cs
  let (minute, rest) ← twoDigits 0 59 (← colon? rest)
  let (second, rest) ← twoDigits 0 60 (← colon? rest)
  let (frac, rest) := secondFraction rest
  pure (pad 2 hour ++ ':' :: pad 2 minute ++ ':' :: pad 2 second ++ frac, rest)

def offset? (cs : List Char) : Option (List Char × List Char) :=
  match cs with
  | c :: rest =>
    if c = 'Z' || c = 'z' then some (['Z'], rest)
    else if c = '+' || c = '-' then do
      let (hours, rest) ← twoDigits 0 23 rest
      let (minutes, rest) ← twoDigits 0 59 (← colon? rest)
      let sign := if hours = 0 && minutes = 0 then '+' else c
      pure (sign :: pad 2 hours ++ ':' :: pad 2 minutes, rest)
    else some ([], cs)
  | [] => some ([], [])

/-- The name under which a date or time stands in a table of its own. -/
def dateKey : String := "$__toml_private_datetime"

def dateTree (text : List Char) : Tree := .table [(dateKey, .text (String.ofList text))]

def dateTime? (cs : List Char) : Option (Tree × List Char) := do
  let (date, rest) ← date? cs
  match rest with
  | c :: more =>
    if (c = 'T' || c = 't' || c = ' ') && isTime more then
      let (time, rest) ← time? more
      let (offset, rest) ← offset? rest
      pure (dateTree (date ++ 'T' :: time ++ offset), rest)
    else pure (dateTree date, rest)
  | [] => pure (dateTree date, [])

def number? (cs : List Char) : Option (Tree × List Char) :=
  if isDate cs then dateTime? cs
  else if isTime cs then (time? cs).map (fun (t, rest) => (dateTree t, rest))
  else
    match cs with
    | '0' :: 'x' :: rest => based 16 rest
    | '0' :: 'o' :: rest => based 8 rest
    | '0' :: 'b' :: rest => based 2 rest
    | '+' :: rest => signed false rest
    | '-' :: rest => signed true rest
    | _ => signed false cs

end ScrapeFleet.Toml
