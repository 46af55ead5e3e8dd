import ScrapeFleet.Regex.Escape

/-!
# What readers leave

A reader returns what it read and the rest of its text.  The rest is a suffix of the text, and
what was read does not depend on it: cutting off a tail that was left untouched changes
nothing.  Both together are `Local`, proved here for the readers of escape sequences.
-/

namespace ScrapeFleet.Regex

variable {α β : Type} {z cs w after : List Char} {f : Flags}

abbrev Reader (α : Type) : Type := List Char → Option (α × List Char)

/-- The reader leaves a suffix of its text, and a tail `z` that it leaves can be cut off. -/
structure Local (z : List Char) (R : Reader α) : Prop where
  suffix {cs : List Char} {x : α} {after : List Char} (h : R cs = some (x, after)) : after <:+ cs
  cut {cs : List Char} {x : α} {after : List Char} (h : R (cs ++ z) = some (x, after ++ z)) :
    R cs = some (x, after)

theorem exists_append_of_suffix (h : after ++ z <:+ w) (hw : w <:+ cs ++ z) :
    ∃ rest, w = rest ++ z ∧ after <:+ rest ∧ rest <:+ cs := by
  obtain ⟨front, rfl⟩ := h
  rw [← List.append_assoc] at hw ⊢
  exact ⟨front ++ after, rfl, List.suffix_append _ _, List.suffix_append_self_iff.mp hw⟩

theorem not_append_suffix (h : w.length < z.length) : ¬ after ++ z <:+ w := fun hs => by
  have := hs.length_le
  rw [List.length_append] at this
  omega

theorem dropWhile_append_of_cons {p : Char → Bool} {c : Char} {rest : List Char}
    (h : cs.dropWhile p = c :: rest) (z : List Char) :
    (cs ++ z).dropWhile p = c :: (rest ++ z) := by
  rw [List.dropWhile_append, if_neg (by rw [h]; exact Bool.false_ne_true), h, List.cons_append]

theorem takeWhile_append_of_cons {p : Char → Bool} {c : Char} {rest : List Char}
    (h : cs.dropWhile p = c :: rest) (z : List Char) :
    (cs ++ z).takeWhile p = cs.takeWhile p := by
  rw [List.takeWhile_append, if_neg]
  intro hlen
  have hsum := congrArg List.length (List.takeWhile_append_dropWhile (p := p) (l := cs))
  rw [List.length_append, hlen, h, List.length_cons] at hsum
  omega

/-- Reads as `S` after the text `w`, and as `T` in front of any other. -/
def lead (w : List Char) (S T : Reader α) : Reader α := fun cs =>
  if w <+: cs then S (cs.drop w.length) else T cs

section Lead

variable {S T : Reader α}

theorem lead_append (w rest : List Char) : lead w S T (w ++ rest) = S rest := by
  rw [lead, if_pos (List.prefix_append w rest), List.drop_left]

theorem lead_of_ne (h : ∀ rest, cs = w ++ rest → False) : lead w S T cs = T cs :=
  if_neg fun ⟨rest, hrest⟩ => h rest hrest.symm

theorem eq_lead {R : Reader α} (hcons : ∀ rest, R (w ++ rest) = S rest)
    (hother : ∀ cs, (∀ rest, cs = w ++ rest → False) → R cs = T cs) (cs : List Char) :
    R cs = lead w S T cs := by
  by_cases hw : w <+: cs
  · obtain ⟨rest, rfl⟩ := hw
    rw [hcons, lead_append]
  · have hne (rest : List Char) (h : cs = w ++ rest) : False := hw ⟨rest, h.symm⟩
    rw [hother cs hne, lead_of_ne hne]

theorem lead_cases {r : α × List Char} (h : lead w S T cs = some r) :
    (∃ rest, cs = w ++ rest ∧ S rest = some r) ∨ T cs = some r := by
  unfold lead at h
  split at h
  · next hw =>
    obtain ⟨rest, rfl⟩ := hw
    rw [List.drop_left] at h
    exact .inl ⟨rest, rfl, h⟩
  · exact .inr h

theorem lead_congr {S' T' : Reader α}
    (hS : ∀ rest, cs = w ++ rest → S rest = S' rest) (hT : T cs = T' cs) :
    lead w S T cs = lead w S' T' cs := by
  unfold lead
  split
  · next hw =>
    obtain ⟨rest, rfl⟩ := hw
    rw [List.drop_left]
    exact hS rest rfl
  · exact hT

end Lead

namespace Local

variable {R S T : Reader α}

theorem congr (hS : Local z S) (h : ∀ cs, R cs = S cs) : Local z R :=
  (funext h : R = S) ▸ hS

theorem none : Local z (fun _ => (.none : Option (α × List Char))) := ⟨nofun, nofun⟩

theorem pure (x : α) : Local z (fun cs => some (x, cs)) where
  suffix h := by
    cases h
    exact List.suffix_rfl
  cut h := by
    rw [Option.some.injEq, Prod.mk.injEq] at h
    rw [h.1, List.append_cancel_right h.2]

theorem bind {K : α → Reader β} (hR : Local z R)
    (hK : ∀ x, Local z (K x)) : Local z (fun cs => (R cs).bind (fun r => K r.1 r.2)) where
  suffix h := by
    obtain ⟨⟨x, mid⟩, hr, hk⟩ := Option.bind_eq_some_iff.mp h
    exact ((hK x).suffix hk).trans (hR.suffix hr)
  cut h := by
    obtain ⟨⟨x, mid⟩, hr, hk⟩ := Option.bind_eq_some_iff.mp h
    obtain ⟨rest, rfl, -, -⟩ := exists_append_of_suffix ((hK x).suffix hk) (hR.suffix hr)
    rw [hR.cut hr]
    exact (hK x).cut hk

theorem given (o : Option β) {K : β → Reader α}
    (hK : ∀ x, Local z (K x)) : Local z (fun cs => o.bind (fun x => K x cs)) := by
  cases o with
  | none => exact none
  | some x => exact hK x

theorem map (o : Option β) {g : β → α} : Local z (fun cs => o.map (fun x => (g x, cs))) := by
  cases o with
  | none => exact none
  | some x => exact pure (g x)

theorem mapFst {K : Reader β} (g : β → α) (hK : Local z K) :
    Local z (fun cs => (K cs).map (fun r => (g r.1, r.2))) := by
  refine .congr (hK.bind (fun x => .pure (g x))) (fun cs => ?_)
  cases K cs <;> rfl

theorem uncons {K : Char → Reader α} (hK : ∀ c, Local z (K c))
    (hnil : R [] = .none) (hcons : ∀ c rest, R (c :: rest) = K c rest) : Local z R where
  suffix {cs x after} h := by
    cases cs with
    | nil => cases hnil.symm.trans h
    | cons c rest => exact ((hK c).suffix (hcons c rest ▸ h)).trans (List.suffix_cons c rest)
  cut {cs x after} h := by
    cases cs with
    | nil =>
      cases z with
      | nil => cases hnil.symm.trans h
      | cons d z =>
        rw [List.nil_append, hcons] at h
        exact absurd ((hK d).suffix h) (not_append_suffix (Nat.lt_succ_self _))
    | cons c rest =>
      rw [List.cons_append, hcons] at h
      rw [hcons]
      exact (hK c).cut h

theorem lead (w : List Char) (hS : Local z S) (hT : Local z T) : Local z (lead w S T) where
  suffix {cs x after} h := by
    by_cases hw : w <+: cs
    · obtain ⟨rest, rfl⟩ := hw
      exact (hS.suffix (lead_append w rest ▸ h)).trans (List.suffix_append w rest)
    · rw [Regex.lead, if_neg hw] at h
      exact hT.suffix h
  cut {cs x after} h := by
    by_cases hw : w <+: cs
    · obtain ⟨rest, rfl⟩ := hw
      rw [List.append_assoc, lead_append] at h
      rw [lead_append]
      exact hS.cut h
    by_cases hwz : w <+: cs ++ z
    · -- `w` reaches into `z`, so `z` is not left
      obtain ⟨rest, hrest⟩ := hwz
      rw [← hrest, lead_append] at h
      have hlen : cs.length < w.length := Nat.lt_of_not_le fun hle =>
        hw (List.prefix_of_prefix_length_le ⟨rest, hrest⟩ (List.prefix_append cs z) hle)
      have hsum := congrArg List.length hrest
      rw [List.length_append, List.length_append] at hsum
      exact absurd (hS.suffix h) (not_append_suffix (by omega))
    · rw [Regex.lead, if_neg hwz] at h
      rw [Regex.lead, if_neg hw]
      exact hT.cut h

theorem find {p : Char → Bool} {K : List Char → Char → Reader α}
    (hK : ∀ w c, Local z (K w c)) : Local z (fun cs => match cs.dropWhile p with
      | [] => .none
      | c :: rest => K (cs.takeWhile p) c rest) where
  suffix {cs x after} h := by
    split at h
    · cases h
    · next c rest hdrop =>
      exact ((hK _ c).suffix h).trans ((List.suffix_cons c rest).trans
        (hdrop ▸ List.dropWhile_suffix _))
  cut {cs x after} h := by
    split at h
    · cases h
    · next d rest hdrop =>
      cases hcs : cs.dropWhile p with
      | nil =>
        -- the character stands in `z`
        rw [List.dropWhile_append, if_pos (hcs ▸ rfl)] at hdrop
        have hlen := (List.dropWhile_suffix p (l := z)).length_le
        rw [hdrop] at hlen
        exact absurd ((hK _ d).suffix h) (not_append_suffix (Nat.lt_of_succ_le hlen))
      | cons c left =>
        rw [dropWhile_append_of_cons hcs, List.cons.injEq] at hdrop
        obtain ⟨rfl, rfl⟩ := hdrop
        rw [takeWhile_append_of_cons hcs] at h
        exact (hK _ c).cut h

/-- A reader that calls itself with enough fuel for its whole text. -/
theorem fuel {R : Nat → Reader α} (hR : ∀ n, Local z (R n))
    (hfuel : ∀ {n m cs}, cs.length < n → cs.length < m → R n cs = R m cs) :
    Local z (fun cs => R (cs.length + 1) cs) where
  suffix h := (hR _).suffix h
  cut {cs x after} h := by
    have hlen : cs.length < (cs ++ z).length + 1 := by
      rw [List.length_append]
      omega
    exact hfuel (Nat.lt_succ_self _) hlen ▸ (hR _).cut h

end Local

/-! ## White space, comments and braces -/

theorem dropBlanks_suffix (comment : Bool) (cs : List Char) : dropBlanks comment cs <:+ cs := by
  induction cs generalizing comment with
  | nil => exact List.suffix_rfl
  | cons c cs ih =>
    rw [dropBlanks]
    split
    · exact (ih _).trans (List.suffix_cons c cs)
    split
    · exact (ih _).trans (List.suffix_cons c cs)
    split
    · exact (ih _).trans (List.suffix_cons c cs)
    · exact List.suffix_rfl

theorem skip_suffix (f : Flags) (cs : List Char) : skip f cs <:+ cs := by
  unfold skip
  split
  · exact dropBlanks_suffix false cs
  · exact List.suffix_rfl

theorem dropBlanks_append (comment : Bool) (cs z : List Char) :
    dropBlanks comment (cs ++ z) = dropBlanks comment cs ++ z ∨
      (dropBlanks comment cs = [] ∧ dropBlanks comment (cs ++ z) <:+ z) := by
  induction cs generalizing comment with
  | nil => exact .inr ⟨rfl, dropBlanks_suffix comment z⟩
  | cons c cs ih =>
    rw [List.cons_append, dropBlanks, dropBlanks]
    split
    · exact ih _
    split
    · exact ih _
    split
    · exact ih _
    · exact .inl rfl

theorem skip_append_or (f : Flags) (cs z : List Char) :
    skip f (cs ++ z) = skip f cs ++ z ∨ (skip f cs = [] ∧ skip f (cs ++ z) <:+ z) := by
  unfold skip
  split
  · exact dropBlanks_append false cs z
  · exact .inl rfl

theorem skip_append (h : after ++ z <:+ skip f (cs ++ z)) : skip f (cs ++ z) = skip f cs ++ z := by
  obtain heq | ⟨hnil, hz⟩ := skip_append_or f cs z
  · exact heq
  · rw [hnil]
    refine hz.eq_of_length_le ?_
    have hlen := h.length_le
    rw [List.length_append] at hlen
    exact Nat.le_of_add_left_le hlen

theorem skip_eq_append (hskip : skip f (cs ++ z) = w) (h : after ++ z <:+ w) :
    w = skip f cs ++ z := by
  subst hskip
  exact skip_append h

namespace Local

variable {R S : Reader α}

theorem skip (f : Flags) (hR : Local z R) : Local z (fun cs => R (skip f cs)) where
  suffix h := (hR.suffix h).trans (skip_suffix f _)
  cut h := hR.cut (skip_append (hR.suffix h) ▸ h)

theorem uncons_skip {K : Char → Reader α} (hK : ∀ c, Local z (K c))
    (hnil : ∀ cs, Regex.skip f cs = [] → R cs = .none)
    (hcons : ∀ cs c rest, Regex.skip f cs = c :: rest → R cs = K c rest) : Local z R := by
  have heq : R = fun cs => match Regex.skip f cs with | [] => .none | c :: rest => K c rest := by
    funext cs
    split
    · next h => exact hnil cs h
    · next c rest h => exact hcons cs c rest h
  exact heq ▸ skip f (R := fun w => match w with | [] => .none | c :: rest => K c rest)
    (uncons hK rfl (fun _ _ => rfl))

end Local

theorem braced_suffix {verbose comment : Bool} {inner : List Char}
    (h : braced verbose comment cs = some (inner, after)) : '\x7d' :: after <:+ cs := by
  induction cs generalizing comment inner with
  | nil => cases h
  | cons c cs ih =>
    rw [braced] at h
    split at h
    · exact (ih h).trans (List.suffix_cons c cs)
    split at h
    · next hc =>
      cases h
      exact hc ▸ List.suffix_rfl
    split at h
    · exact (ih h).trans (List.suffix_cons c cs)
    split at h
    · exact (ih h).trans (List.suffix_cons c cs)
    · obtain ⟨⟨inner, _⟩, h, hr⟩ := Option.map_eq_some_iff.mp h
      cases hr
      exact (ih h).trans (List.suffix_cons c cs)

theorem braced_cut {verbose comment : Bool} {inner : List Char}
    (h : braced verbose comment (cs ++ z) = some (inner, after ++ z)) :
    braced verbose comment cs = some (inner, after) := by
  induction cs generalizing comment inner with
  | nil =>
    have hlen := (braced_suffix h).length_le
    simp only [List.length_cons, List.length_append, List.nil_append] at hlen
    omega
  | cons c cs ih =>
    rw [List.cons_append, braced] at h
    rw [braced]
    split at h
    · next hc => rw [if_pos hc, ih h]
    next hc =>
    rw [if_neg hc]
    split at h
    · next hb =>
      rw [Option.some.injEq, Prod.mk.injEq] at h
      rw [if_pos hb, h.1, List.append_cancel_right h.2]
    next hb =>
    rw [if_neg hb]
    split at h
    · next hc => rw [if_pos hc, ih h]
    next hc =>
    rw [if_neg hc]
    split at h
    · next hc => rw [if_pos hc, ih h]
    next hc =>
    rw [if_neg hc]
    obtain ⟨⟨inner, _⟩, h, hr⟩ := Option.map_eq_some_iff.mp h
    cases hr
    rw [ih h]
    rfl

theorem braced_local (verbose comment : Bool) : Local z (braced verbose comment) where
  suffix h := (List.suffix_cons _ _).trans (braced_suffix h)
  cut := braced_cut

/-! ## Escape sequences -/

namespace Escape

theorem fixedHex_local (f : Flags) (n acc : Nat) : Local z (fixedHex f n acc) := by
  induction n generalizing acc with
  | zero => exact .pure acc
  | succ n ih =>
    refine .uncons_skip (f := f) (fun c => .given (Hex.value? c) (fun d => ih (acc * 16 + d)))
      (fun cs h => ?_) (fun cs c rest h => ?_)
    · rw [fixedHex, h]
    · rw [fixedHex, h]

theorem hex_local (width : Nat) : Local z (hex f width) := by
  have hbraced (inner : List Char) : Local z (fun after =>
      if inner.isEmpty then none else ((Hex.toNat? inner).bind charOf?).bind
        (fun c => some (Escape.char c false, after))) := by
    split
    · exact .none
    · exact .given _ (fun c => .pure _)
  have hfixed (n : Nat) : Local z (fun after =>
      (charOf? n).bind (fun c => some (Escape.char c (width == 2), after))) :=
    .given _ (fun c => .pure _)
  refine .congr ((Local.lead ['\x7b'] ((braced_local f.verbose false).bind hbraced)
    ((fixedHex_local f width 0).bind hfixed)).skip f) (fun cs => ?_)
  unfold hex
  split
  · next rest h =>
    rw [h]
    rfl
  · next h =>
    rw [lead_of_ne (w := ['\x7b']) h]
    rfl

theorem property_local (negated : Bool) : Local z (property f negated) := by
  have hclass (name : List Char) : Local z (fun after =>
      if f.unicode then (Class.property? name).bind (fun r => some
        (Escape.set (Class.foldAndNegate f (negated != r.1) r.2).canonical, after))
      else none) := by
    split
    · exact .given _ (fun r => .pure _)
    · exact .none
  have hname (c : Char) : Local z (fun rest => if c = '\x7b' then braced f.verbose false rest
      else if c = '\\' then none else some ([c], rest)) := by
    split
    · exact braced_local _ _
    split
    · exact .none
    · exact .pure _
  refine .uncons_skip (f := f) (fun c => (hname c).bind hclass) (fun cs h => ?_)
    (fun cs c rest h => ?_)
  · rw [property, h]
    rfl
  · rw [property, h]
    by_cases hb : c = '\x7b'
    · subst hb
      rfl
    by_cases hs : c = '\\'
    · subst hs
      rfl
    · simp [hb, hs]

/-- A brace with nothing but blanks after it, so that no count can follow. -/
def DanglingBrace (f : Flags) (cs : List Char) : Prop :=
  ∃ rest, cs = '\x7b' :: rest ∧ skip f rest = []

def side? (ascii : Bool) : String → Option Look
  | "start" => some (.wordStart ascii)
  | "end" => some (.wordEnd ascii)
  | "start-half" => some (.wordStartHalf ascii)
  | "end-half" => some (.wordEndHalf ascii)
  | _ => none

def side (f : Flags) (cs : List Char) : Option (Escape × List Char) :=
  (braced f.verbose false cs).bind (fun r =>
    (side? (!f.unicode) (String.ofList r.1)).bind (fun l => some (.look l, r.2)))

theorem side_local : Local z (side f) :=
  (braced_local f.verbose false).bind (fun name => .given (side? (!f.unicode) (String.ofList name))
    (fun l => .pure (Escape.look l)))

theorem boundary_of_skip_nil {rest : List Char} (h : skip f rest = []) :
    boundary f ('\x7b' :: rest) = none := by
  simp only [boundary, h]

theorem boundary_of_skip_cons {c : Char} {rest more : List Char} (h : skip f rest = c :: more) :
    boundary f ('\x7b' :: rest) = if isBoundaryLetter c then side f (c :: more)
      else some (.look (.wordBoundary !f.unicode), '\x7b' :: rest) := by
  simp only [boundary, h]
  cases isBoundaryLetter c with
  | false => rfl
  | true =>
    simp only [Bool.not_true, Bool.false_eq_true, ↓reduceIte]
    refine Option.bind_congr fun r _ => ?_
    generalize String.ofList r.1 = s
    split
    case h_5 =>
      rw [side?]
      · rfl
      all_goals assumption
    all_goals rfl

theorem boundary_of_head {f : Flags} {cs : List Char} (h : cs.head? ≠ some '\x7b') :
    boundary f cs = some (.look (.wordBoundary !f.unicode), cs) := by
  unfold boundary
  split
  · exact absurd rfl h
  · rfl

theorem boundary_suffix {e : Escape} (h : boundary f cs = some (e, after)) : after <:+ cs := by
  by_cases hc : cs.head? = some '\x7b'
  · obtain ⟨rest, rfl⟩ := List.head?_eq_some_iff.mp hc
    cases hskip : skip f rest with
    | nil => cases (boundary_of_skip_nil hskip).symm.trans h
    | cons c more =>
      rw [boundary_of_skip_cons hskip] at h
      split at h
      · exact ((side_local (z := [])).suffix h).trans
          ((hskip ▸ skip_suffix f rest).trans (List.suffix_cons _ rest))
      · cases h
        exact List.suffix_rfl
  · rw [boundary_of_head hc] at h
    cases h
    exact List.suffix_rfl

theorem boundary_cut {e : Escape} (h : boundary f (cs ++ ')' :: z) = some (e, after ++ ')' :: z)) :
    boundary f cs = some (e, after) ∨ (DanglingBrace f after ∧ ∃ l, e = .look l) := by
  have hplain (h : some (Escape.look (.wordBoundary !f.unicode), cs ++ ')' :: z) =
      some (e, after ++ ')' :: z)) : e = .look (.wordBoundary !f.unicode) ∧ after = cs := by
    rw [Option.some.injEq, Prod.mk.injEq] at h
    exact ⟨h.1.symm, (List.append_cancel_right h.2).symm⟩
  by_cases hc : cs.head? = some '\x7b'
  · obtain ⟨rest, rfl⟩ := List.head?_eq_some_iff.mp hc
    rw [List.cons_append] at h
    cases hskip : skip f (rest ++ ')' :: z) with
    | nil => cases (boundary_of_skip_nil hskip).symm.trans h
    | cons c more =>
      rw [boundary_of_skip_cons hskip] at h
      split at h
      · next hletter =>
        have hw := skip_eq_append hskip ((side_local (z := [])).suffix h)
        cases hrest : skip f rest with
        | nil =>
          rw [hrest] at hw
          cases hw
          cases hletter
        | cons d left =>
          rw [hrest, List.cons_append, List.cons.injEq] at hw
          obtain ⟨rfl, rfl⟩ := hw
          rw [boundary_of_skip_cons hrest, if_pos hletter]
          exact .inl (side_local.cut h)
      · next hletter =>
        obtain ⟨rfl, rfl⟩ := hplain h
        cases hrest : skip f rest with
        | nil => exact .inr ⟨⟨rest, rfl, hrest⟩, _, rfl⟩
        | cons d left =>
          obtain hw | ⟨hnil, -⟩ := skip_append_or f rest (')' :: z)
          · rw [hskip, hrest, List.cons_append, List.cons.injEq] at hw
            obtain ⟨rfl, -⟩ := hw
            rw [boundary_of_skip_cons hrest, if_neg hletter]
            exact .inl rfl
          · cases hnil.symm.trans hrest
  · have hhead : (cs ++ ')' :: z).head? ≠ some '\x7b' := by
      cases cs with
      | nil => nofun
      | cons d rest => exact hc
    rw [boundary_of_head hhead] at h
    obtain ⟨rfl, rfl⟩ := hplain h
    exact .inl (boundary_of_head hc)

theorem letter_local {c : Char} (hc : c ≠ 'b') : Local z (letter f c) where
  suffix {cs x after} h := by
    unfold letter at h
    split at h
    case h_18 =>
      split at h
      · exact (Local.pure _ (z := [])).suffix h
      · exact (Local.map _ (z := [])).suffix h
    all_goals first
      | exact (hex_local _ (z := [])).suffix h
      | exact (property_local _ (z := [])).suffix h
      | exact (Local.pure _ (z := [])).suffix h
      | exact absurd rfl hc
  cut {cs x after} h := by
    unfold letter at h
    split at h
    case h_18 =>
      rw [letter]
      · split at h
        · next hp =>
          rw [if_pos hp]
          exact (Local.pure _).cut h
        · next hp =>
          rw [if_neg hp]
          exact (Local.map _).cut h
      all_goals assumption
    all_goals first
      | exact (hex_local _).cut h
      | exact (property_local _).cut h
      | exact (Local.pure _).cut h
      | exact absurd rfl hc

theorem read_suffix {e : Escape} (h : read f cs = some (e, after)) : after <:+ cs.tail := by
  cases cs with
  | nil => cases h
  | cons c rest =>
    rw [read] at h
    by_cases hc : c = 'b'
    · subst hc
      exact boundary_suffix h
    · exact (letter_local hc (z := [])).suffix h

theorem read_cut {e : Escape} (h : read f (cs ++ ')' :: z) = some (e, after ++ ')' :: z)) :
    read f cs = some (e, after) ∨ (DanglingBrace f after ∧ ∃ l, e = .look l) := by
  cases cs with
  | nil =>
    have hlen := (read_suffix h).length_le
    simp only [List.nil_append, List.tail_cons, List.length_append, List.length_cons] at hlen
    omega
  | cons c rest =>
    rw [List.cons_append, read] at h
    rw [read]
    by_cases hc : c = 'b'
    · subst hc
      exact boundary_cut h
    · exact .inl ((letter_local hc).cut h)

theorem braced_dangling {comment : Bool} (h : dropBlanks comment cs = []) :
    braced true comment (cs ++ [')', '$']) = none := by
  induction cs generalizing comment with
  | nil => cases comment <;> rfl
  | cons c cs ih =>
    rw [dropBlanks] at h
    rw [List.cons_append, braced]
    split at h
    · next hc => rw [if_pos hc, ih h]
    next hc =>
    rw [if_neg hc]
    split at h
    · next hb =>
      have hne : c ≠ '\x7d' := by
        rintro rfl
        cases hb
      rw [if_neg hne, if_pos (by rw [hb]; rfl), ih h]
    next hb =>
    split at h
    · next hm =>
      subst hm
      rw [if_neg (by decide), if_neg (by decide), if_pos (by decide), ih h]
    · cases h

theorem DanglingBrace.braced_eq_none (h : DanglingBrace f ('\x7b' :: cs)) :
    braced f.verbose false (cs ++ [')', '$']) = none := by
  obtain ⟨_, hcs, h⟩ := h
  cases hcs
  unfold skip at h
  split at h
  · next hv =>
    rw [hv]
    exact braced_dangling h
  · next hv =>
    rw [h, Bool.eq_false_iff.mpr hv]
    rfl

end Escape

end ScrapeFleet.Regex
