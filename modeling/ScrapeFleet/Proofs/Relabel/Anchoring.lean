import ScrapeFleet.Relabel
import ScrapeFleet.Proofs.Regex.Grouping
import ScrapeFleet.Proofs.Regex.Sequence

/-!
# What anchoring a pattern does

A rule puts its pattern into a group between the two conditions on the ends of a text.  The
text of the pattern is not read on its own before, so it may close that group itself: then one
condition belongs to one alternative and the other to another.
-/

namespace ScrapeFleet.Relabel

open Regex Regex.Pattern

theorem isMatch_between_ends (form : Form) (s : String) :
    (Form.concat [.look .textStart, form, .look .textEnd]).expr.isMatch s = true ↔
      form.expr.Matches none s.toList none := by
  have hwhole (p n : Option Char) (w : List Char) :
      (Form.concat [.look .textStart, form, .look .textEnd]).expr.Matches p w n ↔
        p = none ∧ n = none ∧ form.expr.Matches none w none :=
    (Form.concat_sameWords _ _ _ _).trans Expr.matches_between_ends
  rw [Expr.isMatch_iff]
  simp only [hwhole]
  constructor
  · rintro ⟨before, _, hs, w, after, rfl, hbefore, hafter, hw⟩
    obtain rfl := List.getLast?_eq_none_iff.mp hbefore
    obtain rfl := List.head?_eq_none_iff.mp hafter
    rwa [hs, List.nil_append, List.append_nil]
  · intro hw
    exact ⟨[], s.toList, rfl, s.toList, [], (List.append_nil _).symm, rfl, rfl, hw⟩

def around : Outer := ⟨⟨[], [some (.ofLook .textStart)]⟩, {}, none⟩

theorem reads_anchored {cs : List Char} {u : State} (h : Reads .initial (anchored cs) u) :
    Reads (State.initial.within around) (cs ++ [')', '$']) u := by
  obtain hskip | ⟨hskip, hread, happly, h⟩ := h
  · cases hskip
  · cases hskip
    cases hread
    cases happly
    obtain hskip | ⟨hskip, hread, happly, h⟩ := h
    · cases hskip
    · cases hskip
      cases hread
      cases happly
      exact h

theorem value_ended (s : State) : (s.ended around).group.value =
    ⟨.concat [.look .textStart, s.group.value.form, .look .textEnd], s.group.value.depth + 2⟩ := rfl

theorem form?_anchored {cs : List Char} {form : Form} (h : form? (anchored cs) = some form) :
    (∃ inner, form? cs = some inner ∧ form = .concat [.look .textStart, inner, .look .textEnd]) ∨
      ClosesUnopened .initial cs := by
  obtain ⟨u, hreads, hu, hdepth, rfl⟩ := form?_eq_some.mp h
  obtain ⟨s, hs, houter, rfl⟩ | h := (reads_anchored hreads).of_within hu
  · rw [value_ended] at hdepth ⊢
    exact .inl ⟨_, form?_eq_some.mpr ⟨s, hs, houter, Nat.le_of_add_right_le hdepth, rfl⟩, rfl⟩
  · exact .inr h

/-- A pattern that compiles is well formed on its own unless it closes a group that it has not
opened.  It is then valid if it keeps to the memory limit without the conditions around it, and
a subject is matched if the whole joined text is a word of the pattern. -/
theorem Rule.anchors_of_compile {r : Rule} {f : Filter} (h : r.compile? = some f) :
    ((∃ form, form? r.regex.toList = some form) ↔ ¬ ClosesUnopened .initial r.regex.toList) ∧
      ∀ form, form? r.regex.toList = some form →
        parse? r.regex.toList = (if form.fits then some form.expr else none) ∧
        ∀ labels : Labels, f.isMatched labels = true ↔ form.expr.Matches none
          (r.separator.intercalate (r.sourceLabels.map (labels.getD · ""))).toList none := by
  obtain ⟨e, hparse, rfl⟩ := Option.map_eq_some_iff.mp h
  rw [parse?_eq] at hparse
  obtain ⟨form, hform, he⟩ := Option.bind_eq_some_iff.mp hparse
  obtain ⟨-, he⟩ := Option.ite_none_right_eq_some.mp he
  cases he
  have hinner := form?_anchored hform
  refine ⟨⟨?_, fun hopen => ?_⟩, fun inner hi => ⟨?_, fun labels => ?_⟩⟩
  · rintro ⟨inner, hi⟩ hcloses
    cases hcloses.form?_eq_none.symm.trans hi
  · obtain ⟨inner, hi, -⟩ := hinner.resolve_right hopen
    exact ⟨inner, hi⟩
  · rw [parse?_eq, hi, Option.bind_some]
  · obtain ⟨inner', hi', rfl⟩ | hcloses := hinner
    · cases hi'.symm.trans hi
      exact isMatch_between_ends inner _
    · cases hcloses.form?_eq_none.symm.trans hi

def stateRule : Rule := { sourceLabels := ["job", "state"], regex := "(node|db);up" }

theorem Rule.anchors_of_compile_state : ∃ f form, stateRule.compile? = some f ∧
    form? stateRule.regex.toList = some form ∧
      ∀ labels : Labels, f.isMatched labels = true ↔ form.expr.Matches none
        (";".intercalate (["job", "state"].map (labels.getD · ""))).toList none := by
  obtain ⟨f, hf⟩ : ∃ f, stateRule.compile? = some f :=
    Option.isSome_iff_exists.mp (by decide +kernel)
  obtain ⟨form, hform⟩ : ∃ form, form? stateRule.regex.toList = some form :=
    Option.isSome_iff_exists.mp (by decide +kernel)
  exact ⟨f, form, hf, hform, ((Rule.anchors_of_compile hf).2 form hform).2⟩

def unopenedRule : Rule := { sourceLabels := ["x"], regex := "a)|(?:b" }

theorem unopenedRule_matches_part : parse? unopenedRule.regex.toList = none ∧
    unopenedRule.compile?.any (·.isMatched (SortedMap.ofList [("x", "axx")])) = true := by
  decide +kernel

end ScrapeFleet.Relabel
