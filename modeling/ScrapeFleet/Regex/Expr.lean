import ScrapeFleet.Unicode.Property
import ScrapeFleet.Unicode.CaseFold

/-!
Regular expressions over characters, with conditions on the characters around a
position.
-/

namespace ScrapeFleet.Regex

/-- A condition on the characters just before and just after a position. -/
inductive Look where
  | textStart
  | textEnd
  | lineStart
  | lineEnd
  | anyLineStart
  | anyLineEnd
  /-- Exactly one neighbour is a word character; `ascii` limits those to ASCII. -/
  | wordBoundary (ascii : Bool)
  | notWordBoundary (ascii : Bool)
  | wordStart (ascii : Bool)
  | wordEnd (ascii : Bool)
  | wordStartHalf (ascii : Bool)
  | wordEndHalf (ascii : Bool)
  deriving DecidableEq, Repr

inductive Expr where
  | fail
  | unit
  | set (s : CodeSet)
  | look (l : Look)
  | seq (a b : Expr)
  | alt (a b : Expr)
  | star (a : Expr)
  deriving DecidableEq, Repr

/-! ## Word characters -/

def asciiWord : CodeSet := ⟨[(48, 57), (65, 90), (95, 95), (97, 122)]⟩

def isWord (ascii : Bool) : Option Char → Bool
  | none => false
  | some c => if ascii || c.toNat < 128 then asciiWord.has c else Unicode.wordChars.has c

/-- Whether the condition holds between `prev` and `next`; `none` is an end of the text. -/
def Look.holds (prev next : Option Char) : Look → Bool
  | .textStart => prev.isNone
  | .textEnd => next.isNone
  | .lineStart => prev.isNone || prev = some '\n'
  | .lineEnd => next.isNone || next = some '\n'
  | .anyLineStart =>
    prev.isNone || prev = some '\n' || (prev = some '\r' && next ≠ some '\n')
  | .anyLineEnd =>
    next.isNone || next = some '\r' || (next = some '\n' && prev ≠ some '\r')
  | .wordBoundary a => isWord a prev != isWord a next
  | .notWordBoundary a => isWord a prev == isWord a next
  | .wordStart a => !isWord a prev && isWord a next
  | .wordEnd a => isWord a prev && !isWord a next
  | .wordStartHalf a => !isWord a prev
  | .wordEndHalf a => !isWord a next

namespace Expr

def sequence : List Expr → Expr
  | [] => .unit
  | [a] => a
  | a :: rest => .seq a (sequence rest)

def choice : List Expr → Expr
  | [] => .fail
  | [a] => a
  | a :: rest => .alt a (choice rest)

def upTo (a : Expr) : Nat → Expr
  | 0 => .unit
  | n + 1 => .alt .unit (.seq a (upTo a n))

def copies (a : Expr) (rest : Expr) : Nat → Expr
  | 0 => rest
  | n + 1 => .seq a (copies a rest n)

def between (a : Expr) (lo : Nat) (hi : Option Nat) : Expr :=
  match hi with
  | none => copies a (.star a) lo
  | some hi => copies a (upTo a (hi - lo)) lo

end Expr

end ScrapeFleet.Regex
