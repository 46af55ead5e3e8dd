import ScrapeFleet.Regex.Match

/-!
# The language of an expression

`Expr.Matches` says which words an expression matches between two neighbours, one rule for
each way of matching.  The search by marks finds exactly the texts with such a word in them:
what a marked expression still needs after its marks is `Marked.Needs`, and one step of the
marks takes one character off it.
-/

namespace ScrapeFleet.Regex

/-- The expression matches the word where it stands between the two neighbours; `none` is an
end of the text. -/
inductive Expr.Matches : Expr → Option Char → List Char → Option Char → Prop where
  | unit {p n : Option Char} : Matches .unit p [] n
  | set {s : CodeSet} {c : Char} {p n : Option Char} (h : s.has c) : Matches (.set s) p [c] n
  | look {l : Look} {p n : Option Char} (h : l.holds p n) : Matches (.look l) p [] n
  | seq {a b : Expr} {u v : List Char} {p n : Option Char} (ha : Matches a p u (v.head?.or n))
      (hb : Matches b (u.getLast?.or p) v n) : Matches (.seq a b) p (u ++ v) n
  | altLeft {a b : Expr} {w : List Char} {p n : Option Char} (ha : Matches a p w n) :
      Matches (.alt a b) p w n
  | altRight {a b : Expr} {w : List Char} {p n : Option Char} (hb : Matches b p w n) :
      Matches (.alt a b) p w n
  | starNil {a : Expr} {p n : Option Char} : Matches (.star a) p [] n
  | starMore {a : Expr} {u v : List Char} {p n : Option Char} (ha : Matches a p u (v.head?.or n))
      (hs : Matches (.star a) (u.getLast?.or p) v n) : Matches (.star a) p (u ++ v) n

/-! ## Splitting a word -/

theorem getLast?_cons_or (c : Char) (u : List Char) (p : Option Char) :
    (c :: u).getLast?.or p = u.getLast?.or (some c) := by
  rw [List.getLast?_cons]
  cases u.getLast? <;> rfl

theorem exists_append_cons {P : List Char → List Char → Prop} {c : Char} {w : List Char} :
    (∃ u v, c :: w = u ++ v ∧ P u v) ↔
      P [] (c :: w) ∨ ∃ u v, w = u ++ v ∧ P (c :: u) v := by
  constructor
  · rintro ⟨_ | ⟨d, u⟩, v, hw, hp⟩
    · rw [List.nil_append] at hw
      exact .inl (hw ▸ hp)
    · rw [List.cons_append, List.cons.injEq] at hw
      obtain ⟨rfl, rfl⟩ := hw
      exact .inr ⟨u, v, rfl, hp⟩
  · rintro (hp | ⟨u, v, rfl, hp⟩)
    · exact ⟨[], c :: w, rfl, hp⟩
    · exact ⟨c :: u, v, rfl, hp⟩

theorem exists_append_nil {P : List Char → List Char → Prop} :
    (∃ u v, [] = u ++ v ∧ P u v) ↔ P [] [] := by
  constructor
  · rintro ⟨u, v, hw, hp⟩
    obtain ⟨rfl, rfl⟩ := List.append_eq_nil_iff.mp hw.symm
    exact hp
  · exact fun hp => ⟨[], [], rfl, hp⟩

/-- The ways of splitting a word at a match that is under way, or at one that begins here if
`e` holds. -/
theorem exists_under_way {e : Prop} {w : List Char} {N M B : List Char → List Char → Prop} :
    (∃ u v, w = u ++ v ∧ (N u v ∨ (e ∧ M u v)) ∧ B u v) ↔
      (∃ u v, w = u ++ v ∧ N u v ∧ B u v) ∨ (e ∧ ∃ u v, w = u ++ v ∧ M u v ∧ B u v) := by
  constructor
  · rintro ⟨u, v, hw, hn | ⟨he, hm⟩, hb⟩
    · exact .inl ⟨u, v, hw, hn, hb⟩
    · exact .inr ⟨he, u, v, hw, hm, hb⟩
  · rintro (⟨u, v, hw, hn, hb⟩ | ⟨he, u, v, hw, hm, hb⟩)
    · exact ⟨u, v, hw, .inl hn, hb⟩
    · exact ⟨u, v, hw, .inr ⟨he, hm⟩, hb⟩

namespace Expr

variable {a b : Expr} {p n : Option Char} {w : List Char}

@[simp] theorem matches_fail : Matches .fail p w n ↔ False := ⟨nofun, nofun⟩

@[simp] theorem matches_unit : Matches .unit p w n ↔ w = [] :=
  ⟨fun | .unit => rfl, fun h => h ▸ .unit⟩

@[simp] theorem matches_set {s : CodeSet} :
    Matches (.set s) p w n ↔ ∃ c, w = [c] ∧ s.has c = true :=
  ⟨fun | .set h => ⟨_, rfl, h⟩, fun ⟨_, hw, h⟩ => hw ▸ .set h⟩

@[simp] theorem matches_look {l : Look} :
    Matches (.look l) p w n ↔ w = [] ∧ l.holds p n = true :=
  ⟨fun | .look h => ⟨rfl, h⟩, fun ⟨hw, h⟩ => hw ▸ .look h⟩

theorem matches_seq : Matches (.seq a b) p w n ↔
    ∃ u v, w = u ++ v ∧ Matches a p u (v.head?.or n) ∧ Matches b (u.getLast?.or p) v n :=
  ⟨fun | .seq ha hb => ⟨_, _, rfl, ha, hb⟩, fun ⟨_, _, hw, ha, hb⟩ => hw ▸ .seq ha hb⟩

@[simp] theorem matches_alt :
    Matches (.alt a b) p w n ↔ Matches a p w n ∨ Matches b p w n :=
  ⟨fun | .altLeft h => .inl h | .altRight h => .inr h,
    fun | .inl h => .altLeft h | .inr h => .altRight h⟩

/-- Copies of `a` that match the empty text can be left out in front of a character. -/
theorem matches_star_cons {c : Char} : Matches (.star a) p (c :: w) n ↔
    ∃ u v, w = u ++ v ∧ Matches a p (c :: u) (v.head?.or n) ∧
      Matches (.star a) (u.getLast?.or (some c)) v n := by
  constructor
  · intro h
    generalize he : Expr.star a = e, hx : c :: w = x at h
    induction h with
    | unit | set | look | seq | altLeft | altRight => cases he
    | starNil => cases hx
    | @starMore a u v p n ha hs _ ih =>
      cases he
      cases u with
      | nil => exact ih rfl hx
      | cons d u =>
        rw [List.cons_append, List.cons.injEq] at hx
        obtain ⟨rfl, rfl⟩ := hx
        exact ⟨u, v, rfl, ha, getLast?_cons_or c u p ▸ hs⟩
  · rintro ⟨u, v, rfl, ha, hs⟩
    exact .starMore (u := c :: u) ha (getLast?_cons_or c u p ▸ hs)

end Expr

/-! ## What marks still need -/

namespace Marked

def erase : Marked → Expr
  | .fail => .fail
  | .unit => .unit
  | .set s _ => .set s
  | .look l => .look l
  | .seq a b => .seq a.erase b.erase
  | .alt a b => .alt a.erase b.erase
  | .star a => .star a.erase

/-- A match that has come to a mark is complete after the word `w` between `p` and `n`. -/
def Needs : Marked → Option Char → List Char → Option Char → Prop
  | .fail, _, _, _ => False
  | .unit, _, _, _ => False
  | .set _ marked, _, w, _ => marked = true ∧ w = []
  | .look _, _, _, _ => False
  | .seq a b, p, w, n => b.Needs p w n ∨ ∃ u v, w = u ++ v ∧
      a.Needs p u (v.head?.or n) ∧ b.erase.Matches (u.getLast?.or p) v n
  | .alt a b, p, w, n => a.Needs p w n ∨ b.Needs p w n
  | .star a, p, w, n => ∃ u v, w = u ++ v ∧
      a.Needs p u (v.head?.or n) ∧ (Expr.star a.erase).Matches (u.getLast?.or p) v n

@[simp] theorem erase_step (m : Marked) (p : Option Char) (c : Char) (enter : Bool) :
    (m.step p c enter).erase = m.erase := by
  induction m generalizing enter with
  | fail | unit | set | look => rfl
  | seq a b iha ihb | alt a b iha ihb => simp only [step, erase, iha, ihb]
  | star a ih => simp only [step, erase, ih]

@[simp] theorem erase_unmarked (e : Expr) : e.unmarked.erase = e := by
  induction e with
  | fail | unit | set | look => rfl
  | seq a b iha ihb | alt a b iha ihb => simp only [Expr.unmarked, erase, iha, ihb]
  | star a ih => simp only [Expr.unmarked, erase, ih]

theorem not_needs_unmarked (e : Expr) (p : Option Char) (w : List Char) (n : Option Char) :
    ¬ e.unmarked.Needs p w n := by
  induction e generalizing p w n with
  | fail | unit | look => exact id
  | set => exact fun h => absurd h.1 Bool.false_ne_true
  | seq a b iha ihb =>
    rintro (h | ⟨u, v, -, h, -⟩)
    · exact ihb _ _ _ h
    · exact iha _ _ _ h
  | alt a b iha ihb => exact fun h => h.elim (iha _ _ _) (ihb _ _ _)
  | star a ih => exact fun ⟨_, _, _, h, _⟩ => ih _ _ _ h

theorem nullable_iff (m : Marked) (p n : Option Char) :
    m.nullable p n = true ↔ m.erase.Matches p [] n := by
  induction m with
  | fail | unit | set | look => simp [nullable, erase]
  | seq a b iha ihb =>
    simp only [nullable, erase, Bool.and_eq_true, iha, ihb, Expr.matches_seq, exists_append_nil,
      List.head?_nil, List.getLast?_nil, Option.none_or]
  | alt a b iha ihb => simp only [nullable, erase, Bool.or_eq_true, iha, ihb, Expr.matches_alt]
  | star a => exact ⟨fun _ => .starNil, fun _ => rfl⟩

theorem ends_iff (m : Marked) (p n : Option Char) : m.ends p n = true ↔ m.Needs p [] n := by
  induction m with
  | fail | unit | look => simp [ends, Needs]
  | set s marked => simp [ends, Needs]
  | seq a b iha ihb =>
    simp only [ends, Needs, Bool.or_eq_true, Bool.and_eq_true, iha, ihb, nullable_iff,
      exists_append_nil, List.head?_nil, List.getLast?_nil, Option.none_or]
  | alt a b iha ihb => simp only [ends, Needs, Bool.or_eq_true, iha, ihb]
  | star a ih =>
    simp only [ends, Needs, ih, exists_append_nil, List.head?_nil, List.getLast?_nil,
      Option.none_or]
    exact (and_iff_left .starNil).symm

/-- A step takes one character off what the marks need, and where a match may begin it takes
one off a whole match. -/
theorem needs_step (m : Marked) (p : Option Char) (c : Char) (enter : Bool) (w : List Char)
    (n : Option Char) : (m.step p c enter).Needs (some c) w n ↔
      m.Needs p (c :: w) n ∨ (enter = true ∧ m.erase.Matches p (c :: w) n) := by
  induction m generalizing enter w n with
  | fail | unit | look => simp [step, Needs, erase]
  | set s marked =>
    simp only [step, Needs, erase, Bool.and_eq_true, Expr.matches_set, List.cons.injEq]
    constructor
    · rintro ⟨⟨he, hc⟩, hw⟩
      exact .inr ⟨he, c, ⟨rfl, hw⟩, hc⟩
    · rintro (⟨-, hw⟩ | ⟨he, _, ⟨rfl, hw⟩, hc⟩)
      · cases hw
      · exact ⟨⟨he, hc⟩, hw⟩
  | seq a b iha ihb =>
    simp only [step, Needs, erase, erase_step, iha, ihb, Bool.or_eq_true, Bool.and_eq_true,
      nullable_iff, ends_iff, Expr.matches_seq, exists_append_cons, exists_under_way,
      List.head?_cons, List.getLast?_nil, Option.none_or, Option.some_or, getLast?_cons_or]
    grind
  | alt a b iha ihb =>
    simp only [step, Needs, erase, iha, ihb, Expr.matches_alt]
    rw [or_or_or_comm, and_or_left]
  | star a ih =>
    simp only [step, Needs, erase, erase_step, ih, Bool.or_eq_true, ends_iff,
      Expr.matches_star_cons, exists_append_cons, exists_under_way,
      List.head?_cons, List.getLast?_nil, Option.none_or, Option.some_or, getLast?_cons_or]
    grind

/-- The search finds the rest of a match under way, or a whole match that begins later. -/
theorem search_iff (m : Marked) (p : Option Char) (cs : List Char) :
    m.search p cs = true ↔
      (∃ w after, cs = w ++ after ∧ m.Needs p w after.head?) ∨
      (∃ before rest, cs = before ++ rest ∧ ∃ w after, rest = w ++ after ∧
        m.erase.Matches (before.getLast?.or p) w after.head?) := by
  induction cs generalizing m p with
  | nil =>
    simp only [search, Bool.or_eq_true, nullable_iff, ends_iff, exists_append_nil,
      List.head?_nil, List.getLast?_nil, Option.none_or]
    rw [or_comm]
  | cons c cs ih =>
    simp only [search, Bool.or_eq_true, nullable_iff, ends_iff, ih, needs_step, erase_step,
      true_and, exists_append_cons, and_or_left, exists_or, List.head?_cons, List.getLast?_nil,
      Option.none_or, getLast?_cons_or]
    grind

end Marked

/-- The search succeeds on exactly the texts that have a word in them that the expression
matches where it stands. -/
theorem Expr.isMatch_iff (e : Expr) (s : String) :
    e.isMatch s = true ↔ ∃ before rest, s.toList = before ++ rest ∧ ∃ w after, rest = w ++ after ∧
      e.Matches before.getLast? w after.head? := by
  rw [isMatch, Marked.search_iff, Marked.erase_unmarked]
  simp only [Marked.not_needs_unmarked, and_false, exists_const, false_or, Option.or_none]

end ScrapeFleet.Regex
