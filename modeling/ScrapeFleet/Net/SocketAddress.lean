import ScrapeFleet.Data.Word
import ScrapeFleet.Text.Hex

/-!
Internet socket addresses and their canonical text.

An address is an IPv4 address and a port, `1.2.3.4:80`, or an IPv6 address in
brackets, with an optional scope number, and a port, `[fe80::1%3]:80`.
-/

namespace ScrapeFleet

inductive IpAddress where
  | v4 (octets : List Nat)
  | v6 (groups : List Nat) (scope : Nat)
  deriving DecidableEq, Repr

structure SocketAddress where
  ip : IpAddress
  port : Nat
  deriving DecidableEq, Repr

namespace SocketAddress

instance : Inhabited SocketAddress := ⟨⟨.v4 [0, 0, 0, 0], 9090⟩⟩

def anyInterface (port : Nat) : SocketAddress := ⟨.v4 [0, 0, 0, 0], port⟩

/-! ## Reading

A reader removes what it reads from the front of the characters. -/

def char? (c : Char) : List Char → Option (List Char)
  | d :: rest => if c = d then some rest else none
  | [] => none

def decimal? (hi : Nat) (cs : List Char) : Option (Nat × List Char) :=
  let ds := cs.takeWhile Char.isDigit
  let n := ds.foldl (fun acc c => acc * 10 + (c.toNat - 48)) 0
  if ds.isEmpty || hi < n then none else some (n, cs.dropWhile Char.isDigit)

def octet? (cs : List Char) : Option (Nat × List Char) :=
  let ds := cs.takeWhile Char.isDigit
  if 3 < ds.length || (ds.head? = some '0' && ds.length ≠ 1) then none else decimal? 255 cs

def octets? (cs : List Char) : Option (List Nat × List Char) := do
  let (a, cs) ← octet? cs
  let (b, cs) ← octet? (← char? '.' cs)
  let (c, cs) ← octet? (← char? '.' cs)
  let (d, cs) ← octet? (← char? '.' cs)
  pure ([a, b, c, d], cs)

def group? (cs : List Char) : Option (Nat × List Char) :=
  let ds := cs.takeWhile (fun c => (Hex.value? c).isSome)
  if ds.isEmpty || 4 < ds.length then none
  else (Hex.toNat? ds).map (·, cs.drop ds.length)

def separator? (first : Bool) (cs : List Char) : Option (List Char) :=
  if first then some cs else char? ':' cs

/-- Up to `room` groups, and whether they end in an embedded IPv4 address. -/
def groups : Nat → Bool → List Char → List Nat × Bool × List Char
  | 0, _, cs => ([], false, cs)
  | room + 1, first, cs =>
    match (if room = 0 then none else (separator? first cs).bind octets?) with
    | some ([a, b, c, d], rest) => ([a * 256 + b, c * 256 + d], true, rest)
    | _ =>
      match (separator? first cs).bind group? with
      | some (g, rest) =>
        let (more, embedded, rest) := groups room false rest
        (g :: more, embedded, rest)
      | none => ([], false, cs)

/-- The eight groups of an IPv6 address; `::` stands for one or more zero groups. -/
def v6Groups? (cs : List Char) : Option (List Nat × List Char) := do
  let (head, embedded, rest) := groups 8 true cs
  if head.length = 8 then some (head, rest)
  else if embedded then none
  else
    let rest ← char? ':' (← char? ':' rest)
    let (tail, _, rest) := groups (7 - head.length) true rest
    some (head ++ List.replicate (8 - head.length - tail.length) 0 ++ tail, rest)

def port? (cs : List Char) : Option (Nat × List Char) := do decimal? 65535 (← char? ':' cs)

def v4? (cs : List Char) : Option (SocketAddress × List Char) := do
  let (octets, cs) ← octets? cs
  let (port, cs) ← port? cs
  pure (⟨.v4 octets, port⟩, cs)

def v6? (cs : List Char) : Option (SocketAddress × List Char) := do
  let (groups, cs) ← v6Groups? (← char? '[' cs)
  let (scope, cs) ← match char? '%' cs with
    | some cs => decimal? (Word.count32 - 1) cs
    | none => some (0, cs)
  let (port, cs) ← port? (← char? ']' cs)
  pure (⟨.v6 groups scope, port⟩, cs)

def parse? (s : String) : Option SocketAddress :=
  match (v4? s.toList).or (v6? s.toList) with
  | some (a, []) => some a
  | _ => none

/-! ## Writing -/

def decimalText (n : Nat) : List Char := Nat.toDigits 10 n

def octetsText (octets : List Nat) : List Char :=
  List.intercalate ['.'] (octets.map decimalText)

def groupsText (gs : List Nat) : List Char := List.intercalate [':'] (gs.map Hex.ofNat)

def zeroRun (gs : List Nat) : Nat := (gs.takeWhile (· = 0)).length

def longestRun (gs : List Nat) : Nat × Nat :=
  (List.range gs.length).foldl
    (fun best i =>
      let run := zeroRun (gs.drop i)
      if best.2 < run then (i, run) else best)
    (0, 0)

def v6Text (gs : List Nat) : List Char :=
  match gs with
  | [0, 0, 0, 0, 0, 0xffff, hi, lo] =>
    "::ffff:".toList ++ octetsText [hi / 256, hi % 256, lo / 256, lo % 256]
  | _ =>
    let (start, run) := longestRun gs
    if run < 2 then groupsText gs
    else groupsText (gs.take start) ++ [':', ':'] ++ groupsText (gs.drop (start + run))

def text (a : SocketAddress) : String :=
  String.ofList <| match a.ip with
    | .v4 octets => octetsText octets ++ ':' :: decimalText a.port
    | .v6 gs scope =>
      let scopeText := if scope = 0 then [] else '%' :: decimalText scope
      '[' :: v6Text gs ++ scopeText ++ ']' :: ':' :: decimalText a.port

end SocketAddress

end ScrapeFleet
