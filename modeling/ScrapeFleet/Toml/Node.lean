import ScrapeFleet.Data.Tree

/-!
Tables of a TOML text while it is being read.

Each table remembers how it came about, because that decides what may still be added
to it: a table with a header of its own is complete, a table that only stands on the
way to another header may still get its own, and a table made by a dotted key grows by
dotted keys only.
-/

namespace ScrapeFleet.Toml

inductive Origin where
  | header
  | passage
  | dotted
  deriving DecidableEq, Repr

inductive Node where
  | value (t : Tree)
  | table (origin : Origin) (fields : List (String × Node))
  /-- A list of tables, each with a header of its own; the last one first. -/
  | tables (items : List (List (String × Node)))
  deriving Repr, Inhabited

abbrev Fields := List (String × Node)

namespace Fields

def replace (k : String) (n : Node) : Fields → Fields
  | [] => []
  | (k', n') :: rest => if k' = k then (k, n) :: rest else (k', n') :: replace k n rest

def set (k : String) (n : Node) (fs : Fields) : Fields :=
  if (fs.lookup k).isSome then fs.replace k n else fs ++ [(k, n)]

/-- Adds a value under a dotted key, given by the keys on the way and the last one.  A new
key must not be in use, and its table must be open to new ones. -/
def put (k : String) (v : Tree) : List String → Bool → Fields → Option Fields
  | [], isOpen, fs => if isOpen && (fs.lookup k).isNone then some (fs ++ [(k, .value v)]) else none
  | p :: rest, _, fs =>
    match fs.lookup p with
    | none => (put k v rest true []).map (fun inner => fs.set p (.table .dotted inner))
    | some (.table .header _) => none
    | some (.table o inner) =>
      (put k v rest (o = .dotted) inner).map (fun inner => fs.set p (.table o inner))
    | some (.tables (last :: earlier)) =>
      (put k v rest false last).map (fun last => fs.set p (.tables (last :: earlier)))
    | some (.tables []) => none
    | some (.value _) => none

/-- Changes the table that a header names up to its last key; of a list of tables that is
the last one. -/
def within (f : Fields → Option Fields) : List String → Fields → Option Fields
  | [], fs => f fs
  | p :: rest, fs =>
    match fs.lookup p with
    | none => (within f rest []).map (fun inner => fs.set p (.table .passage inner))
    | some (.table o inner) => (within f rest inner).map (fun inner => fs.set p (.table o inner))
    | some (.tables (last :: earlier)) =>
      (within f rest last).map (fun last => fs.set p (.tables (last :: earlier)))
    | some (.tables []) => none
    | some (.value _) => none

end Fields

/-! ## Meaning -/

mutual

def Node.toTree : Node → Tree
  | .value t => t
  | .table _ fs => .table (fieldTrees fs)
  | .tables items => .list (itemTrees items).reverse

def fieldTrees : List (String × Node) → List (FieldName × Tree)
  | [] => []
  | (k, n) :: rest => (k, n.toTree) :: fieldTrees rest

def itemTrees : List (List (String × Node)) → List Tree
  | [] => []
  | fs :: rest => .table (fieldTrees fs) :: itemTrees rest

end

/-! ## Sections -/

inductive Header where
  | root
  | table (path : List String) (name : String)
  | element (path : List String) (name : String)
  deriving Repr

structure Section where
  header : Header
  entries : List (List String × String × Tree)
  deriving Repr

def Fields.putAll (fs : Fields) (entries : List (List String × String × Tree)) : Option Fields :=
  entries.foldlM (fun fs (path, k, v) => fs.put k v path true) fs

def Section.addTo (s : Section) (root : Fields) : Option Fields :=
  match s.header with
  | .root => root.putAll s.entries
  | .table path name =>
    Fields.within (fun parent =>
      match parent.lookup name with
      | none => (Fields.putAll [] s.entries).map (fun fs => parent.set name (.table .header fs))
      | some (.table .passage fs) =>
        (Fields.putAll fs s.entries).map (fun fs => parent.set name (.table .header fs))
      | some _ => none) path root
  | .element path name =>
    Fields.within (fun parent =>
      match parent.lookup name with
      | none => (Fields.putAll [] s.entries).map (fun fs => parent.set name (.tables [fs]))
      | some (.tables items) =>
        (Fields.putAll [] s.entries).map (fun fs => parent.set name (.tables (fs :: items)))
      | some _ => none) path root

end ScrapeFleet.Toml
