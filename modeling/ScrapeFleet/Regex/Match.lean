import ScrapeFleet.Regex.Expr

/-!
Searching a text for a match.

An expression is followed through a text by marks: a set is marked when some way of
matching has just matched the last character with it.  `step` moves the marks on by one
character; a match may begin at every position, and the search succeeds once the marks say
that one may end, or the expression matches the empty text.
-/

namespace ScrapeFleet.Regex

inductive Marked where
  | fail
  | unit
  | set (s : CodeSet) (marked : Bool)
  | look (l : Look)
  | seq (a b : Marked)
  | alt (a b : Marked)
  | star (a : Marked)
  deriving Repr

def Expr.unmarked : Expr → Marked
  | .fail => .fail
  | .unit => .unit
  | .set s => .set s false
  | .look l => .look l
  | .seq a b => .seq a.unmarked b.unmarked
  | .alt a b => .alt a.unmarked b.unmarked
  | .star a => .star a.unmarked

namespace Marked

def nullable (prev next : Option Char) : Marked → Bool
  | .fail => false
  | .unit => true
  | .set _ _ => false
  | .look l => l.holds prev next
  | .seq a b => a.nullable prev next && b.nullable prev next
  | .alt a b => a.nullable prev next || b.nullable prev next
  | .star _ => true

def ends (prev next : Option Char) : Marked → Bool
  | .fail => false
  | .unit => false
  | .set _ marked => marked
  | .look _ => false
  | .seq a b => b.ends prev next || (a.ends prev next && b.nullable prev next)
  | .alt a b => a.ends prev next || b.ends prev next
  | .star a => a.ends prev next

/-- Moves the marks on by `c`, which stands after `prev`; `enter` says whether a match of the
expression may begin before `c`. -/
def step (prev : Option Char) (c : Char) (enter : Bool) : Marked → Marked
  | .fail => .fail
  | .unit => .unit
  | .set s _ => .set s (enter && s.has c)
  | .look l => .look l
  | .seq a b =>
    .seq (a.step prev c enter)
      (b.step prev c ((enter && a.nullable prev (some c)) || a.ends prev (some c)))
  | .alt a b => .alt (a.step prev c enter) (b.step prev c enter)
  | .star a => .star (a.step prev c (enter || a.ends prev (some c)))

/-- Whether a match ends before `rest` or in it; a match may begin before `rest` or in it, or
have come to a mark. -/
def search : Marked → Option Char → List Char → Bool
  | e, prev, [] => e.nullable prev none || e.ends prev none
  | e, prev, c :: rest =>
    e.nullable prev (some c) || e.ends prev (some c) ||
      search (e.step prev c true) (some c) rest

end Marked

def Expr.isMatch (e : Expr) (s : String) : Bool := e.unmarked.search none s.toList

end ScrapeFleet.Regex
