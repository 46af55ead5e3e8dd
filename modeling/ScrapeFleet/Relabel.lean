import ScrapeFleet.Target
import ScrapeFleet.Regex.Pattern
import ScrapeFleet.Regex.Match

/-!
Rules that keep or drop a subject by its labels.

A rule joins the values of its source labels and matches the whole joined text with
its regular expression.  Discovery applies rules to targets, exploration to series.
-/

namespace ScrapeFleet.Relabel

/-- What happens to a subject whose joined labels match. -/
inductive Action where
  | keep
  | drop
  deriving DecidableEq, Repr, Inhabited

structure Rule where
  sourceLabels : List String
  separator : String := ";"
  regex : String
  action : Action := .keep
  deriving DecidableEq, Repr

/-- A rule whose expression has been read. -/
structure Filter where
  sourceLabels : List String
  separator : String
  expr : Regex.Expr
  action : Action
  deriving DecidableEq, Repr

/-- The text of an expression that matches where `pattern` matches a whole text. -/
def anchored (pattern : List Char) : List Char := '^' :: '(' :: '?' :: ':' :: pattern ++ [')', '$']

def Rule.compile? (r : Rule) : Option Filter :=
  (Regex.Pattern.parse? (anchored r.regex.toList)).map (fun expr =>
    { sourceLabels := r.sourceLabels, separator := r.separator, expr, action := r.action })

namespace Filter

/-- The values of the source labels with the separator between them; a missing label counts
as empty. -/
def subject (f : Filter) (labels : Labels) : String :=
  f.separator.intercalate (f.sourceLabels.map (labels.getD · ""))

def isMatched (f : Filter) (labels : Labels) : Bool := f.expr.isMatch (f.subject labels)

def keeps (f : Filter) (labels : Labels) : Bool :=
  match f.action with
  | .keep => f.isMatched labels
  | .drop => !f.isMatched labels

end Filter

def keepsAll (fs : List Filter) (labels : Labels) : Bool := fs.all (·.keeps labels)

def compileAll : List Rule → Except String (List Filter)
  | [] => .ok []
  | r :: rest =>
    match r.compile? with
    | none => .error r.regex
    | some f => (compileAll rest).map (f :: ·)

end ScrapeFleet.Relabel
