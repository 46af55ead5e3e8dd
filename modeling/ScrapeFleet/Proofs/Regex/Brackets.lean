import ScrapeFleet.Regex.Bracket
import ScrapeFleet.Proofs.Regex.Readers

/-!
# What the reader of bracketed classes leaves

The reader of a class is local in front of a closing parenthesis.  Its parts are not all: an
item may be cut short at the end of the text, but then no bracket closes the class either.
-/

namespace ScrapeFleet.Regex.Bracket

variable {z cs after : List Char} {f : Flags}

/-! ## The opening bracket -/

theorem hyphens_local (n : Nat) (b : Bracket) : Local z (fun cs => some (hyphens f b n cs)) := by
  induction n generalizing b with
  | zero => exact .pure b
  | succ n ih =>
    refine .congr (.lead ['-'] ((ih (b.push ⟨.ofChar '-', 0⟩)).skip f) (.pure b))
      (eq_lead (fun rest => rfl) (fun cs h => ?_))
    rw [hyphens]
    exact fun _ rest _ => h rest

theorem hyphens_fuel {n m : Nat} {b : Bracket} (hn : cs.length < n) (hm : cs.length < m) :
    hyphens f b n cs = hyphens f b m cs := by
  induction n generalizing m b cs with
  | zero => omega
  | succ n ih =>
    cases m with
    | zero => omega
    | succ m =>
      by_cases hc : ∃ rest, cs = '-' :: rest
      · obtain ⟨rest, rfl⟩ := hc
        have hlen := (skip_suffix f rest).length_le
        rw [List.length_cons] at hn hm
        exact ih (by omega) (by omega)
      · rw [hyphens, hyphens]
        · exact fun _ rest _ h => hc ⟨rest, h⟩
        · exact fun _ rest _ h => hc ⟨rest, h⟩

def signed (f : Flags) : List Char → Bool × List Char
  | '^' :: rest => (true, skip f rest)
  | cs => (false, cs)

def literalClose (f : Flags) (b : Bracket) (cs : List Char) : Bracket × List Char :=
  match b.parts, cs with
  | [], ']' :: rest => (b.push ⟨.ofChar ']', 0⟩, skip f rest)
  | _, _ => (b, cs)

theorem signed_local : Local z (fun cs => some (signed f cs)) := by
  refine .congr (.lead ['^'] ((Local.pure true).skip f) (.pure false)) (fun cs => ?_)
  unfold signed
  split
  · rfl
  · next h => rw [lead_of_ne (w := ['^']) h]

theorem literalClose_local (b : Bracket) : Local z (fun cs => some (literalClose f b cs)) := by
  unfold literalClose
  cases b.parts with
  | nil =>
    refine .congr (.lead [']'] ((Local.pure (b.push ⟨.ofChar ']', 0⟩)).skip f) (.pure b))
      (fun cs => ?_)
    split
    · rfl
    · next h => rw [lead_of_ne (w := [']']) (fun rest => h rest rfl)]
  | cons => exact .pure b

theorem start_local : Local z (fun cs => some (start f cs)) := by
  have hhyphens (negated : Bool) : Local z (fun cs =>
      some (hyphens f ⟨negated, none, []⟩ (cs.length + 1) cs)) :=
    .fuel (hyphens_local · _) (fun hn hm => congrArg some (hyphens_fuel hn hm))
  exact ((signed_local.skip f).bind hhyphens).bind literalClose_local

/-! ## Named classes -/

def posix? (f : Flags) (negated : Bool) (cs : List Char) : Option (CodeSet × List Char) :=
  match cs.dropWhile (· ≠ ':') with
  | ':' :: ']' :: after =>
    (Class.ascii? (String.ofList (cs.takeWhile (· ≠ ':')))).map
      (fun s => (Class.foldAndNegate f negated s, after))
  | _ => none

theorem named?_eq (f : Flags) (cs : List Char) :
    named? f cs = lead [':'] (lead ['^'] (posix? f true) (posix? f false)) (fun _ => none) cs := by
  unfold named?
  split
  · next rest =>
    change _ = lead ['^'] (posix? f true) (posix? f false) rest
    by_cases hr : ∃ more, rest = '^' :: more
    · obtain ⟨more, rfl⟩ := hr
      rfl
    · have hne (more : List Char) (h : rest = ['^'] ++ more) : False := hr ⟨more, h⟩
      rw [lead_of_ne hne]
      split
      next heq =>
      split at heq
      · next more => exact (hne more rfl).elim
      · cases heq
        rfl
  · next h => rw [lead_of_ne (w := [':']) h]

theorem posix?_local (negated : Bool) : Local z (posix? f negated) := by
  have hname (w : List Char) (c : Char) : Local z (if c = ':' then lead [']'] (fun after =>
      (Class.ascii? (String.ofList w)).map (fun s => (Class.foldAndNegate f negated s, after)))
      (fun _ => none) else fun _ => none) := by
    split
    · exact .lead [']'] (.map _) .none
    · exact .none
  refine .congr (.find (p := (· ≠ ':')) hname) (fun cs => ?_)
  unfold posix?
  generalize cs.dropWhile (· ≠ ':') = w
  split
  · rfl
  · next h =>
    split
    · rfl
    next c rest =>
    split
    · next hc => rw [lead_of_ne (fun after hr => h after (by rw [hc, hr]; rfl))]
    · rfl

theorem posix?_append {negated : Bool} {s : CodeSet} (h : posix? f negated cs = some (s, after)) :
    posix? f negated (cs ++ z) = some (s, after ++ z) := by
  unfold posix? at h
  split at h
  · next left hdrop =>
    obtain ⟨_, hs, hr⟩ := Option.map_eq_some_iff.mp h
    cases hr
    rw [posix?, dropWhile_append_of_cons hdrop, takeWhile_append_of_cons hdrop]
    simp only [List.cons_append, hs, Option.map_some]
  · cases h

theorem named?_local : Local z (named? f) :=
  .congr (.lead [':'] (.lead ['^'] (posix?_local true) (posix?_local false)) .none) (named?_eq f)

theorem named?_append {s : CodeSet} (h : named? f cs = some (s, after)) :
    named? f (cs ++ z) = some (s, after ++ z) := by
  rw [named?_eq] at h ⊢
  by_cases hc : [':'] <+: cs
  · obtain ⟨rest, rfl⟩ := hc
    rw [List.append_assoc, lead_append]
    rw [lead_append] at h
    by_cases hr : ['^'] <+: rest
    · obtain ⟨more, rfl⟩ := hr
      rw [List.append_assoc, lead_append]
      rw [lead_append] at h
      exact posix?_append h
    · rw [lead, if_neg hr] at h
      have hz : ¬ ['^'] <+: rest ++ z := by
        cases rest with
        | nil => cases h
        | cons d rest => simpa using hr
      rw [lead, if_neg hz]
      exact posix?_append h
  · rw [lead, if_neg hc] at h
    cases h

/-! ## Items and ranges -/

theorem item_suffix {e : Escape} (h : item f cs = some (e, after)) : after <:+ cs.tail := by
  unfold item at h
  split at h
  · cases h
  · exact (Escape.read_suffix h).trans (List.tail_suffix _)
  · cases h
    exact List.suffix_rfl

theorem item_cut {e : Escape} (h : item f (cs ++ ')' :: z) = some (e, after ++ ')' :: z)) :
    item f cs = some (e, after) ∨ ∃ l, e = .look l := by
  cases cs with
  | nil =>
    have hlen := (item_suffix h).length_le
    simp only [List.nil_append, List.tail_cons, List.length_append, List.length_cons] at hlen
    omega
  | cons c rest =>
    by_cases hc : c = '\\'
    · subst hc
      exact (Escape.read_cut h).imp_right And.right
    · rw [List.cons_append, item] at h
      · rw [item]
        · exact .inl ((Local.pure _).cut h)
        · exact hc
      · exact hc

theorem peek_append (cs z : List Char) :
    peek f (cs ++ ')' :: z) = (peek f cs).or (some ')') := by
  unfold peek
  split
  · have hblank (cs : List Char) : (cs ++ ')' :: z).dropWhile Text.isBlank =
        cs.dropWhile Text.isBlank ++ ')' :: z := by
      rw [List.dropWhile_append]
      split
      · next h => rw [List.isEmpty_iff.mp h]; rfl
      · rfl
    rw [hblank]
    cases cs.dropWhile Text.isBlank with
    | nil => rfl
    | cons c rest =>
      by_cases hc : c = '#'
      · subst hc
        change ((rest ++ ')' :: z).dropWhile Text.isBlank).head? = _
        rw [hblank, List.head?_append]
        rfl
      · simp [hc]
  · rw [List.head?_append]
    rfl

def between? (f : Flags) : Escape → Escape → Option ClassPart
  | .char lo _, .char hi _ =>
    if lo ≤ hi && allowed f lo && allowed f hi then some ⟨.range lo.toNat hi.toNat, 0⟩ else none
  | _, _ => none

def ending (f : Flags) (first : Escape) : List Char → Option (ClassPart × List Char)
  | [] => none
  | '-' :: rest =>
    if peek f rest = some ']' || peek f rest = some '-' then
      (part f first).map (·, '-' :: rest)
    else (item f (skip f rest)).bind (fun r => (between? f first r.1).map (·, r.2))
  | cs => (part f first).map (·, cs)

theorem range_eq (f : Flags) (cs : List Char) :
    range f cs = (item f cs).bind (fun r => ending f r.1 (skip f r.2)) := by
  unfold range
  refine Option.bind_congr (fun r _ => ?_)
  obtain ⟨first, mid⟩ := r
  dsimp only
  generalize skip f mid = w
  cases w with
  | nil => rfl
  | cons c rest =>
    by_cases hc : c = '-'
    · subst hc
      simp only [ending]
      split
      · rfl
      · refine Option.bind_congr (fun r _ => ?_)
        obtain ⟨second, left⟩ := r
        cases first with
        | char lo =>
          cases second with
          | char hi =>
            simp only [between?]
            split <;> rfl
          | set | look => rfl
        | set | look => rfl
    · unfold ending
      simp [hc]

theorem ending_look (l : Look) (w : List Char) : ending f (.look l) w = none := by
  unfold ending
  split
  · rfl
  · split
    · rfl
    · cases item f (skip f _) <;> rfl
  · rfl

theorem ending_suffix {first : Escape} {p : ClassPart} {w : List Char}
    (h : ending f first w = some (p, after)) : after <:+ w := by
  unfold ending at h
  split at h
  · cases h
  · next rest =>
    split at h
    · exact (Local.map _ (z := [])).suffix h
    · obtain ⟨⟨second, mid⟩, hi, h⟩ := Option.bind_eq_some_iff.mp h
      have hmid : after <:+ mid := (Local.map _ (z := [])).suffix h
      exact hmid.trans ((item_suffix hi).trans ((List.tail_suffix _).trans
        ((skip_suffix f rest).trans (List.suffix_cons _ rest))))
  · exact (Local.map _ (z := [])).suffix h

theorem ending_cut {first : Escape} {p : ClassPart} {w : List Char} (hne : after ≠ [])
    (h : ending f first (w ++ ')' :: z) = some (p, after ++ ')' :: z)) :
    ending f first w = some (p, after) := by
  cases w with
  | nil =>
    obtain ⟨_, _, h⟩ := Option.map_eq_some_iff.mp (h : (part f first).map (·, ')' :: z) = _)
    rw [Prod.mk.injEq] at h
    exact absurd (List.append_left_eq_self.mp h.2.symm) hne
  | cons c rest =>
    by_cases hc : c = '-'
    · subst hc
      have hpeek {d : Char} (hd : d ≠ ')') :
          peek f (rest ++ ')' :: z) = some d ↔ peek f rest = some d := by
        rw [peek_append]
        cases peek f rest with
        | none => simpa using fun h => hd h.symm
        | some => rfl
      rw [List.cons_append, ending] at h
      rw [ending]
      simp only [hpeek (d := ']') (by decide), hpeek (d := '-') (by decide)] at h
      split at h
      · next hp =>
        rw [if_pos hp]
        exact (Local.map _).cut h
      · next hp =>
        rw [if_neg hp]
        obtain ⟨⟨second, mid⟩, hi, h⟩ := Option.bind_eq_some_iff.mp h
        obtain ⟨_, hb, hr⟩ := Option.map_eq_some_iff.mp h
        cases hr
        rw [skip_append ((item_suffix hi).trans (List.tail_suffix _))] at hi
        obtain hi | ⟨l, rfl⟩ := item_cut hi
        · rw [hi, Option.bind_some, hb]
          rfl
        · cases first <;> cases hb
    · have hother (w : List Char) : ending f first (c :: w) = (part f first).map (·, c :: w) := by
        unfold ending
        split
        · next h => cases h
        · next h => exact absurd (List.cons.inj h).1 hc
        · rfl
      rw [List.cons_append, hother] at h
      rw [hother]
      exact (Local.map _).cut h

theorem range_suffix {p : ClassPart} (h : range f cs = some (p, after)) : after <:+ cs.tail := by
  rw [range_eq] at h
  obtain ⟨⟨first, mid⟩, hi, h⟩ := Option.bind_eq_some_iff.mp h
  exact (ending_suffix h).trans ((skip_suffix f mid).trans (item_suffix hi))

theorem range_cut {p : ClassPart} (hne : after ≠ [])
    (h : range f (cs ++ ')' :: z) = some (p, after ++ ')' :: z)) :
    range f cs = some (p, after) := by
  rw [range_eq] at h ⊢
  obtain ⟨⟨first, mid⟩, hi, h⟩ := Option.bind_eq_some_iff.mp h
  have hskip := ending_suffix h
  obtain ⟨mid, rfl, -, -⟩ := exists_append_of_suffix (hskip.trans (skip_suffix f mid))
    ((item_suffix hi).trans (List.tail_suffix _))
  rw [skip_append hskip] at h
  obtain hi | ⟨l, rfl⟩ := item_cut hi
  · rw [hi]
    exact ending_cut hne h
  · rw [ending_look] at h
    cases h

/-! ## The whole class -/

section Run

variable {n : Nat} {b : Bracket} {outer : List Bracket} {p : ClassPart}

def opened (f : Flags) (n : Nat) (b : Bracket) (outer : List Bracket) (cs : List Char) :
    Option (ClassPart × List Char) :=
  match named? f cs with
  | some (s, after) => (Class.checked f s).bind (fun s => run f n (b.push ⟨s, 0⟩) outer after)
  | none => run f n (start f cs).1 (b :: outer) (start f cs).2

def closed (f : Flags) (n : Nat) (b : Bracket) (outer : List Bracket) (cs : List Char) :
    Option (ClassPart × List Char) :=
  (b.close f).bind (fun p =>
    match outer with
    | [] => some (p, cs)
    | b :: outer => run f n (b.push p) outer cs)

def ranged (f : Flags) (n : Nat) (b : Bracket) (outer : List Bracket) (cs : List Char) :
    Option (ClassPart × List Char) :=
  (range f cs).bind (fun r => run f n (b.push r.1) outer r.2)

theorem run_succ (f : Flags) (n : Nat) (b : Bracket) (outer : List Bracket) (cs : List Char) :
    run f (n + 1) b outer cs =
      lead ['['] (opened f n b outer) (lead [']'] (closed f n b outer)
        (lead ['&', '&'] (run f n (b.operator f .inter) outer)
        (lead ['-', '-'] (run f n (b.operator f .diff) outer)
        (lead ['~', '~'] (run f n (b.operator f .symmDiff) outer)
        (ranged f n b outer))))) (skip f cs) := by
  rw [run]
  generalize skip f cs = w
  split
  · rfl
  · rfl
  · rfl
  · rfl
  · rfl
  · rfl
  · next h₁ h₂ h₃ h₄ h₅ =>
    rw [lead_of_ne (w := ['[']) h₁, lead_of_ne (w := [']']) h₂, lead_of_ne (w := ['&', '&']) h₃,
      lead_of_ne (w := ['-', '-']) h₄, lead_of_ne (w := ['~', '~']) h₅]
    rfl

/-- A class that is read ends with the bracket that closes it. -/
theorem run_suffix (h : run f n b outer cs = some (p, after)) : ']' :: after <:+ cs := by
  induction n generalizing b outer cs with
  | zero =>
    rw [run] at h
    cases h
  | succ n ih =>
    rw [run_succ] at h
    have hskip {w rest left : List Char} (hw : skip f cs = w ++ rest) (h : left <:+ rest) :
        left <:+ cs := (h.trans (List.suffix_append w rest)).trans (hw ▸ skip_suffix f cs)
    obtain ⟨rest, hw, h⟩ | h := lead_cases h
    · unfold opened at h
      split at h
      · next s left hnamed =>
        obtain ⟨s, -, h⟩ := Option.bind_eq_some_iff.mp h
        exact hskip hw ((ih h).trans ((named?_local (z := [])).suffix hnamed))
      · exact hskip hw ((ih h).trans ((start_local (z := [])).suffix rfl))
    obtain ⟨rest, hw, h⟩ | h := lead_cases h
    · obtain ⟨q, -, h⟩ := Option.bind_eq_some_iff.mp h
      split at h
      · cases h
        have hall := skip_suffix f cs
        rwa [hw] at hall
      · exact hskip hw (ih h)
    obtain ⟨rest, hw, h⟩ | h := lead_cases h
    · exact hskip hw (ih h)
    obtain ⟨rest, hw, h⟩ | h := lead_cases h
    · exact hskip hw (ih h)
    obtain ⟨rest, hw, h⟩ | h := lead_cases h
    · exact hskip hw (ih h)
    · obtain ⟨⟨q, mid⟩, hr, h⟩ := Option.bind_eq_some_iff.mp h
      exact hskip (w := []) rfl ((ih h).trans ((range_suffix hr).trans (List.tail_suffix _)))

theorem ranged_local (hrun : ∀ b, Local (')' :: z) (run f n b outer)) :
    Local (')' :: z) (ranged f n b outer) where
  suffix h := by
    obtain ⟨⟨q, mid⟩, hr, h⟩ := Option.bind_eq_some_iff.mp h
    exact ((hrun _).suffix h).trans ((range_suffix hr).trans (List.tail_suffix _))
  cut {cs x after} h := by
    obtain ⟨⟨q, mid⟩, hr, h⟩ := Option.bind_eq_some_iff.mp h
    -- the closing bracket that is still to come stands in front of `z`
    have hclose : (']' :: after) ++ ')' :: z <:+ mid := run_suffix h
    obtain ⟨mid, rfl, hclose, -⟩ := exists_append_of_suffix hclose
      ((range_suffix hr).trans (List.tail_suffix _))
    have hne : mid ≠ [] := by
      rintro rfl
      exact absurd (List.suffix_nil.mp hclose) nofun
    rw [ranged, range_cut hne hr]
    exact (hrun _).cut h

theorem opened_local (hrun : ∀ b outer, Local (')' :: z) (run f n b outer)) :
    Local (')' :: z) (opened f n b outer) where
  suffix {cs x after} h := by
    unfold opened at h
    split at h
    · next s left hnamed =>
      obtain ⟨s, -, h⟩ := Option.bind_eq_some_iff.mp h
      exact ((hrun _ _).suffix h).trans ((named?_local (z := [])).suffix hnamed)
    · exact ((hrun _ _).suffix h).trans ((start_local (z := [])).suffix rfl)
  cut {cs x after} h := by
    unfold opened at h
    split at h
    · next s left hnamed =>
      obtain ⟨s, hs, h⟩ := Option.bind_eq_some_iff.mp h
      obtain ⟨left, rfl, -, -⟩ := exists_append_of_suffix ((hrun _ _).suffix h)
        ((named?_local (z := [])).suffix hnamed)
      rw [opened, named?_local.cut hnamed]
      exact Option.bind_eq_some_iff.mpr ⟨s, hs, (hrun _ _).cut h⟩
    · next hnamed =>
      have hnone : named? f cs = none := by
        cases hcs : named? f cs with
        | none => rfl
        | some => cases (named?_append hcs).symm.trans hnamed
      rw [opened, hnone]
      exact (start_local.bind (hrun · (b :: outer))).cut h

theorem run_local : Local (')' :: z) (run f n b outer) := by
  induction n generalizing b outer with
  | zero => exact .none
  | succ n ih =>
    have hclosed : Local (')' :: z) (closed f n b outer) := by
      refine .given (b.close f) (fun p => ?_)
      cases outer with
      | nil => exact .pure p
      | cons b outer => exact ih
    exact .congr ((Local.lead ['['] (opened_local (fun _ _ => ih)) (.lead [']'] hclosed
      (.lead ['&', '&'] ih (.lead ['-', '-'] ih (.lead ['~', '~'] ih
        (ranged_local (fun _ => ih))))))).skip f) (run_succ f n b outer)

theorem run_fuel {m : Nat} (hn : cs.length < n) (hm : cs.length < m) :
    run f n b outer cs = run f m b outer cs := by
  induction n generalizing m b outer cs with
  | zero => omega
  | succ n ih =>
    cases m with
    | zero => omega
    | succ m =>
      rw [run_succ, run_succ]
      have hskip := (skip_suffix f cs).length_le
      -- after any opening text there is less left than fuel
      have hrun {b : Bracket} {outer : List Bracket} {w rest left : List Char}
          (hw : skip f cs = w ++ rest) (hne : 0 < w.length) (hleft : left <:+ rest) :
          run f n b outer left = run f m b outer left := by
        have hlen := hleft.length_le
        rw [hw, List.length_append] at hskip
        exact ih (by omega) (by omega)
      refine lead_congr (fun rest hw => ?_) (lead_congr (fun rest hw => ?_)
        (lead_congr (fun rest hw => hrun hw (by decide) List.suffix_rfl)
        (lead_congr (fun rest hw => hrun hw (by decide) List.suffix_rfl)
        (lead_congr (fun rest hw => hrun hw (by decide) List.suffix_rfl) ?_))))
      · unfold opened
        split
        · next hnamed =>
          exact Option.bind_congr fun s _ =>
            hrun hw (by decide) ((named?_local (z := [])).suffix hnamed)
        · exact hrun hw (by decide) ((start_local (z := [])).suffix rfl)
      · refine Option.bind_congr fun p _ => ?_
        split
        · rfl
        · exact hrun hw (by decide) List.suffix_rfl
      · refine Option.bind_congr fun r hr => ?_
        have hleft := range_suffix hr
        cases hw : skip f cs with
        | nil =>
          rw [hw] at hr
          cases hr
        | cons c rest =>
          rw [hw] at hleft
          exact hrun (w := [c]) hw Nat.one_pos hleft

end Run

theorem read_local : Local (')' :: z) (read f) :=
  start_local.bind (K := fun b cs => run f (cs.length + 1) b [] cs)
    (fun _ => .fuel (fun _ => run_local) run_fuel)

end ScrapeFleet.Regex.Bracket
