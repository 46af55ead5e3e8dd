import ScrapeFleet.Data.Word

/-!
Uniform resource identifiers: absolute ones with a scheme and an authority, a bare
authority, and a path on its own.
-/

namespace ScrapeFleet

structure Uri where
  /-- The scheme; without one there is a bare authority or a bare path. -/
  scheme : Option (List Char)
  /-- User information, host and port; empty only beside a bare path. -/
  authority : List Char
  path : List Char
  query : Option (List Char)
  deriving DecidableEq, Repr

namespace Uri

/-! ## Characters -/

def isSchemeChar (c : Char) : Bool :=
  c.isAlphanum || c = '+' || c = '-' || c = '.' || c = '~'

def isAuthorityChar (c : Char) : Bool :=
  c.isAlphanum || "!$&'()*+,-.:;=@[]_~".toList.contains c

/-- What may stand in a path or a query, apart from the marks that end it; characters beyond
ASCII need not be escaped. -/
def isVisible (c : Char) : Bool :=
  '!' ≤ c && c ≠ '"' && c ≠ '#' && c ≠ '<' && c ≠ '>'

def isPathChar (c : Char) : Bool :=
  (isVisible c && c ≠ '?' && c ≠ '`') || c = '"'

def isQueryChar (c : Char) : Bool := isVisible c

/-! ## Authorities -/

/-- What the marks in an authority amount to, from left to right. -/
structure Marks where
  colons : Nat := 0
  opened : Bool := false
  closed : Bool := false
  /-- Whether an escaped byte stands outside of the parts where one may. -/
  percent : Bool := false
  atEnd : Bool := false
  deriving Repr

def maxColons : Nat := 8

def Marks.next (m : Marks) (c : Char) : Option Marks :=
  let m := { m with atEnd := false }
  if c = ':' then if maxColons ≤ m.colons then none else some { m with colons := m.colons + 1 }
  else if c = '[' then if m.percent || m.opened then none else some { m with opened := true }
  else if c = ']' then
    if !m.opened || m.closed then none
    else some { m with closed := true, colons := 0, percent := false }
  else if c = '@' then some { m with colons := 0, percent := false, atEnd := true }
  else if c = '%' then some { m with percent := true }
  else if isAuthorityChar c then some m
  else none

def Marks.isComplete (m : Marks) : Bool :=
  m.opened = m.closed && m.colons ≤ 1 && !m.percent && !m.atEnd

def endsAuthority (c : Char) : Bool := c = '/' || c = '?' || c = '#'

def authority? (cs : List Char) : Option (List Char × List Char) :=
  let a := cs.takeWhile (!endsAuthority ·)
  match a.foldlM Marks.next {} with
  | some m => if m.isComplete then some (a, cs.drop a.length) else none
  | none => none

/-! ## Paths and schemes -/

/-- A path with a query; a fragment after them is dropped. -/
def target? (cs : List Char) : Option (List Char × Option (List Char)) :=
  let isEnd := fun c => c = '?' || c = '#'
  let path := cs.takeWhile (!isEnd ·)
  if !path.all isPathChar then none
  else
    match cs.drop path.length with
    | '?' :: rest =>
      let query := rest.takeWhile (· ≠ '#')
      if query.all isQueryChar then some (path, some query) else none
    | _ => some (path, none)

def wellKnown : List (List Char) := [['h', 't', 't', 'p'], ['h', 't', 't', 'p', 's']]

def maxSchemeLength : Nat := 64

/-- The scheme before `://`, if there is one, and what follows; `none` if it is too long. -/
def scheme? (cs : List Char) : Option (Option (List Char) × List Char) :=
  let s := cs.takeWhile isSchemeChar
  match cs.drop s.length with
  | ':' :: '/' :: '/' :: rest =>
    let lower := s.map Char.toLower
    if wellKnown.contains lower then some (some lower, rest)
    else if s.isEmpty && rest.isEmpty then some (none, cs)
    else if maxSchemeLength < s.length then none
    else some (some s, rest)
  | _ => some (none, cs)

/-! ## Reading -/

def parseFull (cs : List Char) : Option Uri := do
  let (scheme, rest) ← scheme? cs
  let (authority, rest) ← authority? rest
  if authority.isEmpty then none
  else
    match scheme with
    | none => if rest.isEmpty then some ⟨none, authority, [], none⟩ else none
    | some s =>
      let (path, query) ← target? rest
      pure ⟨some s, authority, path, query⟩

def maxLength : Nat := 65534

def parse? (s : String) : Option Uri :=
  if maxLength < s.utf8ByteSize then none
  else
    match s.toList with
    | [] => none
    | ['*'] => some ⟨none, [], ['*'], none⟩
    | '/' :: rest => (target? ('/' :: rest)).map (fun (path, query) => ⟨none, [], path, query⟩)
    | cs => parseFull cs

/-! ## Parts -/

def hostAndPort (u : Uri) : List Char :=
  (u.authority.reverse.takeWhile (· ≠ '@')).reverse

def host? (u : Uri) : Option (List Char) :=
  if u.authority.isEmpty then none
  else
    match u.hostAndPort with
    | '[' :: rest => some ('[' :: rest.takeWhile (· ≠ ']') ++ [']'])
    | cs => some (cs.takeWhile (· ≠ ':'))

def port? (u : Uri) : Option Nat :=
  if u.authority.contains ':' then
    let ds := (u.authority.reverse.takeWhile (· ≠ ':')).reverse
    let ds := match ds with
      | '+' :: rest => rest
      | _ => ds
    let n := ds.foldl (fun acc c => acc * 10 + (c.toNat - 48)) 0
    if !ds.isEmpty && ds.all Char.isDigit && n < Word.count16 then some n else none
  else none

def shownPath (u : Uri) : List Char :=
  if u.path.isEmpty && u.scheme.isSome then ['/'] else u.path

def queryText (u : Uri) : List Char :=
  match u.query with
  | some q => '?' :: q
  | none => []

/-- The path and the query as they are requested, or a slash if neither is written; none
after a bare authority. -/
def requestTarget? (u : Uri) : Option (List Char) :=
  if u.scheme.isNone && !u.authority.isEmpty then none
  else
    match u.path ++ u.queryText with
    | [] => some ['/']
    | t => some t

def text (u : Uri) : String :=
  let scheme := match u.scheme with
    | some s => s ++ [':', '/', '/']
    | none => []
  String.ofList (scheme ++ u.authority ++ u.shownPath ++ u.queryText)

end Uri

end ScrapeFleet
