import ScrapeFleet.Regex.Form
import ScrapeFleet.Proofs.Regex.Language

/-!
# Sequences of forms

A form is stored flat: neighbouring literals are joined and nested sequences opened.  Here
this is shown not to change the language: `Form.concat` matches what its parts match one after
another.
-/

namespace ScrapeFleet.Regex

namespace Expr

def SameWords (a b : Expr) : Prop := ∀ p w n, a.Matches p w n ↔ b.Matches p w n

def inTurn : List Expr → Expr
  | [] => .unit
  | a :: rest => .seq a (inTurn rest)

namespace SameWords

variable {a b c d : Expr}

theorem refl (a : Expr) : SameWords a a := fun _ _ _ => Iff.rfl

theorem symm (h : SameWords a b) : SameWords b a := fun p w n => (h p w n).symm

theorem trans (h : SameWords a b) (h' : SameWords b c) : SameWords a c :=
  fun p w n => (h p w n).trans (h' p w n)

theorem seq (h : SameWords a b) (h' : SameWords c d) : SameWords (.seq a c) (.seq b d) := by
  intro p w n
  simp only [matches_seq, h _ _ _, h' _ _ _]

end SameWords

theorem unit_seq (a : Expr) : SameWords (.seq .unit a) a := by
  intro p w n
  rw [matches_seq]
  constructor
  · rintro ⟨u, v, rfl, hu, hv⟩
    obtain rfl := matches_unit.mp hu
    exact hv
  · exact fun h => ⟨[], w, rfl, .unit, h⟩

theorem seq_unit (a : Expr) : SameWords (.seq a .unit) a := by
  intro p w n
  rw [matches_seq]
  constructor
  · rintro ⟨u, v, rfl, hu, hv⟩
    obtain rfl := matches_unit.mp hv
    rwa [List.append_nil]
  · exact fun h => ⟨w, [], (List.append_nil w).symm, h, .unit⟩

theorem seq_assoc (a b c : Expr) : SameWords (.seq (.seq a b) c) (.seq a (.seq b c)) := by
  intro p w n
  constructor
  · intro h
    obtain ⟨_, x, rfl, hab, hc⟩ := matches_seq.mp h
    obtain ⟨u, v, rfl, ha, hb⟩ := matches_seq.mp hab
    rw [← Option.or_assoc, ← List.head?_append] at ha
    rw [List.getLast?_append, Option.or_assoc] at hc
    rw [List.append_assoc]
    exact .seq ha (.seq hb hc)
  · intro h
    obtain ⟨u, _, rfl, ha, hbc⟩ := matches_seq.mp h
    obtain ⟨v, x, rfl, hb, hc⟩ := matches_seq.mp hbc
    rw [List.head?_append, Option.or_assoc] at ha
    rw [← Option.or_assoc, ← List.getLast?_append] at hc
    rw [← List.append_assoc]
    exact .seq (.seq ha hb) hc

theorem inTurn_append (as bs : List Expr) :
    SameWords (inTurn (as ++ bs)) (.seq (inTurn as) (inTurn bs)) := by
  induction as with
  | nil => exact (unit_seq _).symm
  | cons a as ih => exact ((SameWords.refl a).seq ih).trans (seq_assoc _ _ _).symm

theorem sequence_sameWords (es : List Expr) : SameWords (sequence es) (inTurn es) := by
  induction es with
  | nil => exact .refl _
  | cons a rest ih =>
    cases rest with
    | nil => exact (seq_unit a).symm
    | cons b rest => exact (SameWords.refl a).seq ih

/-- Between the conditions on the two ends of a text, only the whole text can match. -/
theorem matches_between_ends {a : Expr} {p n : Option Char} {w : List Char} :
    (inTurn [.look .textStart, a, .look .textEnd]).Matches p w n ↔
      p = none ∧ n = none ∧ a.Matches none w none := by
  constructor
  · intro h
    obtain ⟨_, _, rfl, hstart, h⟩ := matches_seq.mp h
    obtain ⟨rfl, hp⟩ := matches_look.mp hstart
    obtain ⟨u, _, rfl, ha, h⟩ := matches_seq.mp h
    obtain ⟨rfl, hn⟩ := matches_look.mp ((seq_unit _ _ _ _).mp h)
    obtain rfl := Option.isNone_iff_eq_none.mp hp
    obtain rfl := Option.isNone_iff_eq_none.mp hn
    rw [List.nil_append, List.append_nil]
    exact ⟨rfl, rfl, ha⟩
  · rintro ⟨rfl, rfl, ha⟩
    have hend : (inTurn [.look .textEnd]).Matches (w.getLast?.or none) [] none :=
      (seq_unit _ _ _ _).mpr (.look rfl)
    have h : (inTurn [.look .textStart, a, .look .textEnd]).Matches none ([] ++ (w ++ [])) none :=
      .seq (.look rfl) (.seq ha hend)
    rwa [List.nil_append, List.append_nil] at h

end Expr

namespace Form

theorem elements_sameWords (f : Form) :
    Expr.SameWords (Expr.inTurn (f.elements.map expr)) f.expr := by
  induction f with
  | empty => exact .refl _
  | seq a b iha ihb =>
    rw [elements, List.map_append]
    exact (Expr.inTurn_append _ _).trans (iha.seq ihb)
  | literal | set | look | copies | capture | alt => exact Expr.seq_unit _

theorem literal_append_sameWords (cs ds : List Char) :
    Expr.SameWords (Form.literal (cs ++ ds)).expr
      (.seq (Form.literal cs).expr (Form.literal ds).expr) := by
  rw [expr, List.map_append]
  exact (Expr.sequence_sameWords _).trans ((Expr.inTurn_append _ _).trans
    ((Expr.sequence_sameWords _).seq (Expr.sequence_sameWords _)).symm)

theorem joinLiterals_sameWords (l : List Form) :
    Expr.SameWords (Expr.inTurn ((joinLiterals l).map expr)) (Expr.inTurn (l.map expr)) := by
  induction l with
  | nil => exact .refl _
  | cons f rest ih =>
    have hcons : Expr.SameWords (Expr.inTurn ((f :: joinLiterals rest).map expr))
        (Expr.inTurn ((f :: rest).map expr)) := (Expr.SameWords.refl _).seq ih
    cases f with
    | empty | set | look | copies | capture | seq | alt => exact hcons
    | literal cs =>
      rw [joinLiterals]
      split
      · next ds more hjoin =>
        rw [hjoin] at hcons
        have happend := (literal_append_sameWords cs ds).seq (.refl (Expr.inTurn (more.map expr)))
        exact (happend.trans (Expr.seq_assoc _ _ _)).trans hcons
      · exact hcons

theorem ofElements_sameWords (l : List Form) :
    Expr.SameWords (ofElements l).expr (Expr.inTurn (l.map expr)) := by
  induction l with
  | nil => exact .refl _
  | cons a rest ih =>
    cases rest with
    | nil => exact (Expr.seq_unit _).symm
    | cons b rest => exact (Expr.SameWords.refl _).seq ih

theorem flatMap_elements_sameWords (l : List Form) :
    Expr.SameWords (Expr.inTurn ((l.flatMap elements).map expr)) (Expr.inTurn (l.map expr)) := by
  induction l with
  | nil => exact .refl _
  | cons f rest ih =>
    rw [List.flatMap_cons, List.map_append]
    exact (Expr.inTurn_append _ _).trans ((elements_sameWords f).seq ih)

theorem concat_sameWords (parts : List Form) :
    Expr.SameWords (concat parts).expr (Expr.inTurn (parts.map expr)) :=
  (ofElements_sameWords _).trans
    ((joinLiterals_sameWords _).trans (flatMap_elements_sameWords parts))

end Form

end ScrapeFleet.Regex
