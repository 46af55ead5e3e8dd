import ScrapeFleet.Text.Hex
import ScrapeFleet.Text.Utf8

/-!
Queries: names and values with escaped bytes, joined by ampersands.
-/

namespace ScrapeFleet.Form

def split (sep : Char) : List Char → List (List Char)
  | [] => [[]]
  | c :: rest =>
    if c = sep then [] :: split sep rest
    else
      match split sep rest with
      | [] => [[c]]
      | part :: parts => (c :: part) :: parts

def charBytes (c : Char) : List UInt8 := (String.ofList [c]).toUTF8.toList

/-- The bytes of a text in which a plus sign stands for a blank, and a percent sign before
two hexadecimal digits for the byte that they write. -/
def unescape : List Char → List UInt8
  | [] => []
  | '%' :: a :: b :: rest =>
    match Hex.toNat? [a, b] with
    | some n => UInt8.ofNat n :: unescape rest
    | none => charBytes '%' ++ unescape (a :: b :: rest)
  | c :: rest => charBytes (if c = '+' then ' ' else c) ++ unescape rest

def decode (cs : List Char) : String := String.ofList (Utf8.decodeLossy ⟨(unescape cs).toArray⟩)

def pair (cs : List Char) : String × String :=
  (decode (cs.takeWhile (· ≠ '=')), decode ((cs.dropWhile (· ≠ '=')).drop 1))

def pairs (query : List Char) : List (String × String) :=
  ((split '&' query).filter (!·.isEmpty)).map pair

def unique? (query : List Char) (name : String) : Option (Option String) :=
  match (pairs query).filter (·.1 = name) with
  | [] => some none
  | [(_, value)] => some (some value)
  | _ => none

end ScrapeFleet.Form
