import ScrapeFleet.Decimal.Binary64

/-!
Trees of plain data, the common meaning of JSON and TOML texts, and reading typed
values from them.

Readers return `none` for a tree of the wrong shape.  What the two formats treat
differently is a `Dialect`; the depth to which a reader may still descend is a
parameter of its own.
-/

namespace ScrapeFleet

structure FieldName where
  text : String
  /-- Whether it was written without escapes. -/
  plain : Bool := true
  deriving DecidableEq, Repr, Inhabited

instance : Coe String FieldName := ⟨fun s => ⟨s, true⟩⟩

inductive Tree where
  | null
  | bool (b : Bool)
  | int (n : Int)
  | real (x : Binary64)
  | text (s : String)
  | list (items : List Tree)
  /-- Fields in the order of the text; a name may occur more than once. -/
  | table (fields : List (FieldName × Tree))
  /-- A well-formed literal without a value: a number out of range, or text with half a
  surrogate pair or bytes that are not UTF-8. -/
  | unreadable
  deriving Repr, Inhabited

namespace Tree

structure Dialect where
  /-- Whether a list that stands for a record may have more items than the record has fields. -/
  surplusItems : Bool
  /-- The payload of an enumeration value that is written as a table of one entry. -/
  isUnit : Tree → Bool

/-- How a reader looks at a tree: the dialect, and the levels that it may still enter. -/
structure View where
  dialect : Dialect
  depth : Nat

def View.enter (v : View) : Option View :=
  if v.depth ≤ 1 then none else some { v with depth := v.depth - 1 }

abbrev Reader (α : Type) := View → Tree → Option α

/-! ## Scalars -/

def readBool : Reader Bool
  | _, .bool b => some b
  | _, _ => none

def readInt (lo hi : Int) : Reader Int
  | _, .int n => if lo ≤ n && n ≤ hi then some n else none
  | _, _ => none

def readNat (hi : Nat) : Reader Nat := fun v t => (readInt 0 hi v t).map Int.toNat

def readText : Reader String
  | _, .text s => some s
  | _, _ => none

def readOption {α : Type} (r : Reader α) : Reader (Option α)
  | _, .null => some none
  | v, t => (r v t).map some

/-! ## Lists and tables -/

def readList {α : Type} (r : Reader α) : Reader (List α)
  | v, .list items => v.enter.bind (fun v => items.mapM (r v))
  | _, _ => none

def readTable {κ α : Type} (key : FieldName → Option κ) (r : Reader α) : Reader (List (κ × α))
  | v, .table fields =>
    v.enter.bind (fun v => fields.mapM (fun f => do
      let k ← key f.1
      let x ← r v f.2
      pure (k, x)))
  | _, _ => none

/-- One of the named values, written as its name or as a table with that name and a unit. -/
def readEnum {α : Type} (values : List (String × α)) : Reader α
  | _, .text s => values.lookup s
  | v, .table [(s, payload)] =>
    if v.enter.isSome && v.dialect.isUnit payload then values.lookup s.text else none
  | _, _ => none

def readNamed {α : Type} (r : Reader α) : Reader (List (String × α)) :=
  readTable (fun name => some name.text) r

/-! ## Records -/

structure Fields where
  view : View
  given : List (String × Tree)

/-- Finds the named fields: by name in a table, where other names are ignored and a
repeated one is refused, or by position in a list. -/
def fields (names : List String) : View → Tree → Option Fields
  | v, .table fs =>
    let known := (fs.map (fun f => (f.1.text, f.2))).filter (fun f => names.contains f.1)
    if (known.map (·.1)).eraseDups.length = known.length then
      v.enter.map (fun v => ⟨v, known⟩)
    else none
  | v, .list items =>
    if items.length ≤ names.length || v.dialect.surplusItems then
      v.enter.map (fun v => ⟨v, names.zip items⟩)
    else none
  | _, _ => none

namespace Fields

def required {α : Type} (fs : Fields) (name : String) (r : Reader α) : Option α :=
  (fs.given.lookup name).bind (r fs.view)

def optional {α : Type} (fs : Fields) (name : String) (r : Reader α) (d : α) : Option α :=
  match fs.given.lookup name with
  | some t => r fs.view t
  | none => some d

end Fields

end Tree

end ScrapeFleet
