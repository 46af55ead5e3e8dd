/-!
Reading bytes as UTF-8.

`next` reads one character or says how many bytes of an ill-formed sequence to
skip; from it come the strict reading with the position of the first fault and the
lenient reading that puts a mark for every fault.
-/

namespace ScrapeFleet.Utf8

inductive Next where
  | done
  | char (c : Char) (width : Nat)
  /-- `width` bytes that no continuation makes well-formed. -/
  | bad (width : Nat)
  | incomplete
  deriving Repr

def isTail (b : Nat) : Bool := 0x80 ≤ b && b ≤ 0xBF

def secondBounds (a : Nat) : Nat × Nat :=
  if a = 0xE0 then (0xA0, 0xBF)
  else if a = 0xED then (0x80, 0x9F)
  else if a = 0xF0 then (0x90, 0xBF)
  else if a = 0xF4 then (0x80, 0x8F)
  else (0x80, 0xBF)

/-- The number of bytes that the first byte announces; zero if it cannot be first. -/
def announced (a : Nat) : Nat :=
  if a < 0x80 then 1
  else if 0xC2 ≤ a && a ≤ 0xDF then 2
  else if 0xE0 ≤ a && a ≤ 0xEF then 3
  else if 0xF0 ≤ a && a ≤ 0xF4 then 4
  else 0

def tails (acc done : Nat) : Nat → List UInt8 → Next
  | 0, _ => .char (Char.ofNat acc) done
  | _ + 1, [] => .incomplete
  | more + 1, b :: rest =>
    if isTail b.toNat then tails (acc * 64 + b.toNat % 64) (done + 1) more rest else .bad done

def next : List UInt8 → Next
  | [] => .done
  | a :: rest =>
    let a := a.toNat
    match announced a with
    | 0 => .bad 1
    | 1 => .char (Char.ofNat a) 1
    | n + 2 =>
      match rest with
      | [] => .incomplete
      | b :: more =>
        let (lo, hi) := secondBounds a
        let lead := if n = 0 then a % 32 else if n = 1 then a % 16 else a % 8
        if lo ≤ b.toNat && b.toNat ≤ hi then tails (lead * 64 + b.toNat % 64) 2 n more
        else .bad 1

structure Fault where
  index : Nat
  /-- The length of the ill-formed sequence, or `none` if the bytes end too early. -/
  width : Option Nat
  deriving DecidableEq, Repr

def Fault.message (f : Fault) : String :=
  match f.width with
  | some n => s!"invalid utf-8 sequence of {n} bytes from index {f.index}"
  | none => s!"incomplete utf-8 byte sequence from index {f.index}"

def scan : Nat → Nat → List Char → List UInt8 → List Char × Option Fault
  | 0, _, acc, _ => (acc, none)
  | fuel + 1, index, acc, bytes =>
    match next bytes with
    | .done => (acc, none)
    | .char c w => scan fuel (index + w) (c :: acc) (bytes.drop w)
    | .bad w => (acc, some ⟨index, some w⟩)
    | .incomplete => (acc, some ⟨index, none⟩)

def decode (bytes : ByteArray) : Except Fault (List Char) :=
  match scan (bytes.size + 1) 0 [] bytes.toList with
  | (acc, none) => .ok acc.reverse
  | (_, some f) => .error f

def decodeWithFrom (mark : Char) : Nat → List Char → List UInt8 → List Char
  | 0, acc, _ => acc.reverse
  | fuel + 1, acc, bytes =>
    match next bytes with
    | .done => acc.reverse
    | .char c w => decodeWithFrom mark fuel (c :: acc) (bytes.drop w)
    | .bad w => decodeWithFrom mark fuel (mark :: acc) (bytes.drop w)
    | .incomplete => (mark :: acc).reverse

def decodeWith (mark : Char) (bytes : ByteArray) : List Char :=
  decodeWithFrom mark (bytes.size + 1) [] bytes.toList

def decodeLossy (bytes : ByteArray) : List Char := decodeWith '\uFFFD' bytes

end ScrapeFleet.Utf8
