import ScrapeFleet.Regex.Pattern
import ScrapeFleet.Proofs.Regex.Brackets

/-!
# What the reader of tokens leaves

In front of a closing parenthesis every token is read as it is read at the end of the text,
except for a word boundary with a dangling brace, after which nothing can be read.
-/

namespace ScrapeFleet.Regex.Token

variable {z cs after : List Char} {f : Flags}

/-! ## Groups -/

theorem name?_local : Local z name? := by
  have hname (w : List Char) (_ : Char) : Local z (fun rest =>
      if w.head?.any isNameStart && w.tail.all isNameChar then some (w, rest) else none) := by
    split
    · exact .pure w
    · exact .none
  refine .congr (.find (p := (· ≠ '>')) hname) (fun cs => ?_)
  unfold name?
  generalize cs.dropWhile (· ≠ '>') = left
  cases left with
  | nil => cases cs.takeWhile (· ≠ '>') <;> rfl
  | cons d rest => cases cs.takeWhile (· ≠ '>') <;> rfl

theorem namedGroup_local : Local z (namedGroup f) :=
  .mapFst (fun name => Token.opening f true (some name)) name?_local

def flagged (f : Flags) (cs : List Char) : Option (Token × List Char) :=
  match cs.dropWhile (fun c => !(c = ':' || c = ')')) with
  | ':' :: after =>
    (changeFlags f (cs.takeWhile (fun c => !(c = ':' || c = ')')))).map
      (fun f => (.opening f false none, after))
  | ')' :: after =>
    if (cs.takeWhile (fun c => !(c = ':' || c = ')'))).isEmpty then none
    else (changeFlags f (cs.takeWhile (fun c => !(c = ':' || c = ')')))).map
      (fun f => (.flags f, after))
  | _ => none

theorem flagged_local : Local z (flagged f) := by
  have hletters (w : List Char) (c : Char) : Local z (fun after =>
      if c = ':' then (changeFlags f w).map (fun f => (Token.opening f false none, after))
      else if c = ')' then
        if w.isEmpty then none else (changeFlags f w).map (fun f => (Token.flags f, after))
      else none) := by
    split
    · exact .map _
    split
    · split
      · exact .none
      · exact .map _
    · exact .none
  refine .congr (.find (p := fun c => !(c = ':' || c = ')')) hletters) (fun cs => ?_)
  unfold flagged
  generalize cs.dropWhile _ = w
  split
  · rfl
  · rfl
  · next h₁ h₂ =>
    split
    · rfl
    · next c rest =>
      rw [if_neg (fun hc => h₁ rest (by rw [hc])), if_neg (fun hc => h₂ rest (by rw [hc]))]

theorem group_eq (f : Flags) (cs : List Char) :
    group f cs = lead ['?', '='] (fun _ => none) (lead ['?', '!'] (fun _ => none)
      (lead ['?', '<', '='] (fun _ => none) (lead ['?', '<', '!'] (fun _ => none)
      (lead ['?', 'P', '<'] (namedGroup f) (lead ['?', '<'] (namedGroup f)
      (lead ['?'] (flagged f) (fun cs => some (.opening f true none, cs)))))))) (skip f cs) := by
  unfold group
  generalize skip f cs = w
  split
  · rfl
  · rfl
  · rfl
  · rfl
  · rfl
  · next rest h₁ h₂ =>
    have hne {c : Char} (hc : '<' ≠ c) (w left : List Char)
        (h : '?' :: '<' :: rest = ('?' :: c :: w) ++ left) : False :=
      hc (List.cons.inj (List.cons.inj h).2).1
    have htail {w left : List Char} (h : '?' :: '<' :: rest = '?' :: '<' :: (w ++ left)) :
        rest = w ++ left := (List.cons.inj (List.cons.inj h).2).2
    rw [lead_of_ne (hne (by decide) []), lead_of_ne (hne (by decide) []),
      lead_of_ne (w := ['?', '<', '=']) (fun left h => h₁ left (htail (w := ['=']) h)),
      lead_of_ne (w := ['?', '<', '!']) (fun left h => h₂ left (htail (w := ['!']) h)),
      lead_of_ne (hne (by decide) ['<'])]
    rfl
  · next rest h₁ h₂ h₃ h₄ h₅ h₆ =>
    rw [lead_of_ne (w := ['?', '=']) (fun left h => h₁ left (List.cons.inj h).2),
      lead_of_ne (w := ['?', '!']) (fun left h => h₂ left (List.cons.inj h).2),
      lead_of_ne (w := ['?', '<', '=']) (fun left h => h₃ left (List.cons.inj h).2),
      lead_of_ne (w := ['?', '<', '!']) (fun left h => h₄ left (List.cons.inj h).2),
      lead_of_ne (w := ['?', 'P', '<']) (fun left h => h₅ left (List.cons.inj h).2),
      lead_of_ne (w := ['?', '<']) (fun left h => h₆ left (List.cons.inj h).2)]
    rfl
  · next h₁ h₂ h₃ h₄ h₅ h₆ h₇ =>
    rw [lead_of_ne (w := ['?', '=']) h₁, lead_of_ne (w := ['?', '!']) h₂,
      lead_of_ne (w := ['?', '<', '=']) h₃, lead_of_ne (w := ['?', '<', '!']) h₄,
      lead_of_ne (w := ['?', 'P', '<']) h₅, lead_of_ne (w := ['?', '<']) h₆,
      lead_of_ne (w := ['?']) h₇]

theorem group_local : Local z (group f) :=
  .congr (.skip f (.lead _ .none (.lead _ .none (.lead _ .none (.lead _ .none
    (.lead _ namedGroup_local (.lead _ namedGroup_local (.lead _ flagged_local (.pure _)))))))))
    (group_eq f)

/-! ## Repetition -/

theorem repetition_local (lo : Nat) (hi : Option Nat) :
    Local z (fun cs => some (repetition f lo hi cs)) := by
  refine .congr (.lead ['?'] (.pure (.repeating lo hi f.swapGreed))
    (.pure (.repeating lo hi (!f.swapGreed)))) (fun cs => ?_)
  unfold repetition
  split
  · rfl
  · next h => rw [lead_of_ne (w := ['?']) h]

theorem counted_local : Local z (counted f) := by
  have hbounds (inner : List Char) : Local z (fun rest =>
      (bounds? inner).bind (fun b => some (repetition f b.1 b.2 (skip f rest)))) :=
    .given _ (fun b => (repetition_local b.1 b.2).skip f)
  exact (braced_local f.verbose false).bind hbounds

/-! ## Tokens -/

theorem class_local : Local (')' :: z)
    (fun cs => (Bracket.read f cs).map (fun (p, after) => (Token.piece (.ofClass f p), after))) :=
  .mapFst (fun p => Token.piece (.ofClass f p)) Bracket.read_local

theorem read_local {c : Char} (hc : c ≠ '\\') : Local (')' :: z) (read f c) where
  suffix {cs x after} h := by
    unfold read at h
    split at h
    all_goals first
      | exact (group_local (z := [])).suffix h
      | exact (class_local (z := [])).suffix h
      | exact (repetition_local _ _ (z := [])).suffix h
      | exact (counted_local (z := [])).suffix h
      | exact (Local.map _ (z := [])).suffix h
      | exact (Local.pure _ (z := [])).suffix h
      | exact absurd rfl hc
  cut {cs x after} h := by
    unfold read at h
    split at h
    case h_13 =>
      rw [read]
      · exact (Local.pure _).cut h
      all_goals assumption
    all_goals first
      | exact group_local.cut h
      | exact class_local.cut h
      | exact (repetition_local _ _).cut h
      | exact counted_local.cut h
      | exact (Local.map _).cut h
      | exact (Local.pure _).cut h
      | exact absurd rfl hc

theorem read_escape {t : Token} (h : read f '\\' cs = some (t, after)) :
    ∃ e, Escape.read f cs = some (e, after) ∧ ofEscape f e = some t := by
  obtain ⟨⟨e, mid⟩, he, h⟩ := Option.bind_eq_some_iff.mp h
  obtain ⟨t, ht, h⟩ := Option.bind_eq_some_iff.mp h
  cases h
  exact ⟨e, he, ht⟩

theorem read_suffix {c : Char} {t : Token} (h : read f c cs = some (t, after)) :
    after <:+ cs := by
  by_cases hc : c = '\\'
  · subst hc
    obtain ⟨e, he, -⟩ := read_escape h
    exact (Escape.read_suffix he).trans (List.tail_suffix cs)
  · exact (read_local hc (z := [])).suffix h

/-- A token in front of a closing parenthesis is the token at the end of the text, unless it is
a word boundary with a dangling brace after it. -/
theorem read_cut {c : Char} {t : Token}
    (h : read f c (cs ++ ')' :: z) = some (t, after ++ ')' :: z)) :
    read f c cs = some (t, after) ∨
      (Escape.DanglingBrace f after ∧ ∃ l, t = .piece (.ofLook l)) := by
  by_cases hc : c = '\\'
  · subst hc
    obtain ⟨e, he, ht⟩ := read_escape h
    obtain he | ⟨hdangling, l, rfl⟩ := Escape.read_cut he
    · rw [read, he]
      exact .inl (Option.bind_eq_some_iff.mpr ⟨(e, after), rfl,
      Option.bind_eq_some_iff.mpr ⟨t, ht, rfl⟩⟩)
    · exact .inr ⟨hdangling, l, (Option.some.inj ht).symm⟩
  · exact .inl ((read_local hc).cut h)

theorem flagged_ne_closing : flagged f cs ≠ some (.closing, after) := by
  intro h
  unfold flagged at h
  split at h
  · obtain ⟨_, _, h⟩ := Option.map_eq_some_iff.mp h
    cases h
  · split at h
    · cases h
    · obtain ⟨_, _, h⟩ := Option.map_eq_some_iff.mp h
      cases h
  · cases h

theorem group_ne_closing : group f cs ≠ some (.closing, after) := by
  have hnamed (rest : List Char) : namedGroup f rest ≠ some (.closing, after) := by
    intro h
    obtain ⟨_, _, h⟩ := Option.map_eq_some_iff.mp h
    cases h
  intro h
  unfold group at h
  split at h
  · cases h
  · cases h
  · cases h
  · cases h
  · exact hnamed _ h
  · exact hnamed _ h
  · exact flagged_ne_closing h
  · cases h

theorem repetition_ne_closing (lo : Nat) (hi : Option Nat) :
    repetition f lo hi cs ≠ (.closing, after) := by
  unfold repetition
  split <;> nofun

theorem counted_ne_closing : counted f cs ≠ some (.closing, after) := by
  intro h
  obtain ⟨_, _, h⟩ := Option.bind_eq_some_iff.mp h
  obtain ⟨_, _, h⟩ := Option.bind_eq_some_iff.mp h
  exact repetition_ne_closing _ _ (Option.some.inj h)

theorem dot_ne_closing (f : Flags) : dot f ≠ some .closing := by
  unfold dot
  split
  · nofun
  split
  · nofun
  split <;> nofun

theorem ofEscape_ne_closing (f : Flags) (e : Escape) : ofEscape f e ≠ some .closing := by
  unfold ofEscape
  split
  · split <;> nofun
  · nofun
  · nofun

theorem read_closing {c : Char} (h : read f c cs = some (.closing, after)) :
    c = ')' ∧ after = cs := by
  unfold read at h
  split at h
  case h_2 =>
    cases h
    exact ⟨rfl, rfl⟩
  case h_1 => exact absurd h group_ne_closing
  case h_4 =>
    obtain ⟨_, _, h⟩ := Option.map_eq_some_iff.mp h
    cases h
  case h_5 | h_6 | h_7 => exact absurd (Option.some.inj h) (repetition_ne_closing _ _)
  case h_8 => exact absurd h counted_ne_closing
  case h_9 =>
    obtain ⟨t, ht, h⟩ := Option.map_eq_some_iff.mp h
    cases h
    exact absurd ht (dot_ne_closing f)
  case h_12 =>
    obtain ⟨e, -, ht⟩ := read_escape h
    exact absurd ht (ofEscape_ne_closing f e)
  all_goals cases h

end ScrapeFleet.Regex.Token
