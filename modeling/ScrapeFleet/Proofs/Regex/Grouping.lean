import ScrapeFleet.Proofs.Regex.Tokens

/-!
# A pattern inside a group

A reading of a pattern is a sequence of steps, one for each token.  Put into a group, a pattern
takes the same steps, unless one of them closes a group that the pattern has not opened: then
it closes the group around the pattern.
-/

namespace ScrapeFleet.Regex.Pattern

/-- The whole text is read from one state to another. -/
inductive Reads : State → List Char → State → Prop where
  | done {s : State} {cs : List Char} (hskip : skip s.flags cs = []) : Reads s cs s
  | step {s s' u : State} {cs : List Char} {c : Char} {rest : List Char} {t : Token}
      {after : List Char} (hskip : skip s.flags cs = c :: rest)
      (hread : Token.read s.flags c rest = some (t, after)) (happly : s.apply t = some s')
      (h : Reads s' after u) : Reads s cs u

/-- The reading of a text comes to a parenthesis that closes no group of the text. -/
inductive ClosesUnopened : State → List Char → Prop where
  | here {s : State} {cs rest : List Char} (hskip : skip s.flags cs = ')' :: rest)
      (houter : s.outer = []) : ClosesUnopened s cs
  | later {s s' : State} {cs : List Char} {c : Char} {rest : List Char} {t : Token}
      {after : List Char} (hskip : skip s.flags cs = c :: rest)
      (hread : Token.read s.flags c rest = some (t, after)) (happly : s.apply t = some s')
      (h : ClosesUnopened s' after) : ClosesUnopened s cs

variable {s u : State} {cs : List Char}

/-! ## Readings and runs -/

theorem reads_of_run {n : Nat} (h : run n s cs = some u) : Reads s cs u := by
  induction n generalizing s cs with
  | zero => cases h
  | succ n ih =>
    rw [run] at h
    split at h
    · next hskip =>
      cases h
      exact .done hskip
    · next c rest hskip =>
      obtain ⟨⟨t, after⟩, hread, h⟩ := Option.bind_eq_some_iff.mp h
      obtain ⟨s', happly, h⟩ := Option.bind_eq_some_iff.mp h
      exact .step hskip hread happly (ih h)

theorem Reads.run (h : Reads s cs u) {n : Nat} (hn : cs.length < n) : run n s cs = some u := by
  induction h generalizing n with
  | done hskip =>
    cases n with
    | zero => omega
    | succ n => rw [Pattern.run, hskip]
  | @step s s' u cs c rest t after hskip hread happly _ ih =>
    cases n with
    | zero => omega
    | succ n =>
      have hcs := (skip_suffix s.flags cs).length_le
      have hafter := (Token.read_suffix hread).length_le
      rw [hskip, List.length_cons] at hcs
      rw [Pattern.run, hskip]
      exact Option.bind_eq_some_iff.mpr ⟨_, hread,
        Option.bind_eq_some_iff.mpr ⟨s', happly, ih (by omega)⟩⟩

theorem run_iff : run (cs.length + 1) s cs = some u ↔ Reads s cs u :=
  ⟨reads_of_run, fun h => h.run (Nat.lt_succ_self _)⟩

theorem ClosesUnopened.not_reads (h : ClosesUnopened s cs) : ¬ Reads s cs u := by
  induction h with
  | here hskip houter =>
    rintro (hskip' | ⟨hskip', hread, happly, -⟩)
    · cases hskip.symm.trans hskip'
    · cases hskip.symm.trans hskip'
      cases hread
      rw [State.apply, houter] at happly
      cases happly
  | later hskip hread happly _ ih =>
    rintro (hskip' | ⟨hskip', hread', happly', h⟩)
    · cases hskip.symm.trans hskip'
    · cases hskip.symm.trans hskip'
      cases hread.symm.trans hread'
      cases happly.symm.trans happly'
      exact ih h

/-! ## Patterns -/

/-- The form of a well-formed pattern, whatever memory it takes. -/
def form? (cs : List Char) : Option Form :=
  (run (cs.length + 1) .initial cs).bind (fun s =>
    if s.outer.isEmpty && s.group.value.depth ≤ maxDepth then some s.group.value.form else none)

theorem form?_eq_some {form : Form} : form? cs = some form ↔
    ∃ s, Reads .initial cs s ∧ s.outer = [] ∧ s.group.value.depth ≤ maxDepth ∧
      s.group.value.form = form := by
  unfold form?
  simp only [Option.bind_eq_some_iff, run_iff, Option.ite_none_right_eq_some, Bool.and_eq_true,
    List.isEmpty_iff, decide_eq_true_eq, Option.some.injEq, and_assoc]

/-- A pattern is valid if it is well formed and both its automata keep to the limit. -/
theorem parse?_eq (cs : List Char) :
    parse? cs = (form? cs).bind (fun form => if form.fits then some form.expr else none) := by
  rw [parse?, form?, Option.bind_assoc]
  refine Option.bind_congr fun s _ => ?_
  unfold State.finish
  dsimp only
  cases s.outer.isEmpty && decide (s.group.value.depth ≤ maxDepth) with
  | false => rfl
  | true => rw [Bool.true_and, if_pos rfl, Option.bind_some]

theorem ClosesUnopened.form?_eq_none (h : ClosesUnopened .initial cs) : form? cs = none := by
  cases hform : form? cs with
  | none => rfl
  | some form =>
    obtain ⟨s, hreads, -⟩ := form?_eq_some.mp hform
    exact absurd hreads h.not_reads

/-! ## Inside a group -/

def State.within (s : State) (o : Outer) : State := { s with outer := s.outer ++ [o] }

section Within

variable (s : State) (o : Outer)

@[simp] theorem State.within_flags : (s.within o).flags = s.flags := rfl

@[simp] theorem State.within_group : (s.within o).group = s.group := rfl

@[simp] theorem State.within_names : (s.within o).names = s.names := rfl

@[simp] theorem State.within_outer : (s.within o).outer = s.outer ++ [o] := rfl

theorem State.within_outer_ne_nil : (s.within o).outer ≠ [] :=
  List.append_ne_nil_of_right_ne_nil s.outer (List.cons_ne_nil o [])

end Within

theorem apply_within {o : Outer} {t : Token} (h : t = .closing → s.outer ≠ []) :
    (s.within o).apply t = (s.apply t).map (·.within o) := by
  cases t with
  | opening flags captures name =>
    by_cases hdup : (name.toList ++ s.names).eraseDups.length < (name.toList ++ s.names).length
    · simp only [State.apply, State.within_names, hdup, ↓reduceIte, Option.map_none]
    · simp only [State.apply, State.within_names, hdup, ↓reduceIte, Option.map_some]
      rfl
  | closing =>
    cases houter : s.outer with
    | nil => exact absurd houter (h rfl)
    | cons o' outer =>
      simp only [State.apply, State.within_outer, houter, List.cons_append]
      rfl
  | bar | flags | piece => rfl
  | repeating lo hi greedy =>
    simp only [State.apply, State.within_group]
    split <;> rfl

def State.ended (s : State) (o : Outer) : State :=
  { s with
    flags := o.flags
    group := (o.group.push (some (s.group.value.group o.index))).push
      (some (.ofLook (Token.lineEnd o.flags)))
    outer := [] }

theorem skip_dollar (f : Flags) : skip f ['$'] = ['$'] := by
  cases hv : f.verbose <;> simp only [skip, hv] <;> rfl

theorem Reads.eq_of_dollar (h : Reads s ['$'] u) :
    u = s.element (some (.ofLook (Token.lineEnd s.flags))) := by
  obtain hskip | ⟨hskip, hread, happly, h⟩ := h
  · cases (skip_dollar _).symm.trans hskip
  · cases (skip_dollar _).symm.trans hskip
    cases hread
    cases happly
    obtain - | ⟨hskip, -⟩ := h
    · rfl
    · have hnil : skip s.flags [] = [] := List.suffix_nil.mp (skip_suffix _ _)
      cases hnil.symm.trans hskip

theorem Reads.outer_of_suffix (h : Reads s cs u) (hcs : cs <:+ ['$']) : u.outer = s.outer := by
  obtain rfl | hcs := List.suffix_cons_iff.mp hcs
  · rw [h.eq_of_dollar]
    rfl
  · obtain rfl := List.suffix_nil.mp hcs
    obtain - | ⟨hskip, -⟩ := h
    · rfl
    · cases (List.suffix_nil.mp (skip_suffix s.flags [])).symm.trans hskip

theorem not_reads_dangling (h : Escape.DanglingBrace s.flags cs) :
    ¬ Reads s (cs ++ [')', '$']) u := by
  obtain ⟨rest, rfl, hrest⟩ := h
  have hskip : skip s.flags ('\x7b' :: rest ++ [')', '$']) = '\x7b' :: (rest ++ [')', '$']) := by
    cases hv : s.flags.verbose <;> simp only [skip, hv] <;> rfl
  have hread : Token.read s.flags '\x7b' (rest ++ [')', '$']) = none := by
    have hbraced := Escape.DanglingBrace.braced_eq_none ⟨rest, rfl, hrest⟩
    rw [Token.read, Token.counted, hbraced]
    rfl
  rintro (h | ⟨h, hread', -⟩)
  · cases hskip.symm.trans h
  · cases hskip.symm.trans h
    cases hread.symm.trans hread'

variable {s' : State} {o : Outer} {c : Char} {rest after : List Char} {t : Token}

/-- The parenthesis after a pattern closes the group around it if no other is open. -/
theorem ended_of_closing (happly : (s.within o).apply .closing = some s')
    (h : Reads s' ['$'] u) (hu : u.outer = []) : s.outer = [] ∧ u = s.ended o := by
  have hs' := h.outer_of_suffix List.suffix_rfl
  rw [hu] at hs'
  cases houter : s.outer with
  | nil =>
    rw [State.apply, State.within_outer, houter, List.nil_append, Option.some.injEq] at happly
    subst happly
    exact ⟨rfl, h.eq_of_dollar⟩
  | cons o' outer =>
    rw [State.apply, State.within_outer, houter, List.cons_append, Option.some.injEq] at happly
    subst happly
    exact absurd hs'.symm (List.append_ne_nil_of_right_ne_nil outer (List.cons_ne_nil o []))

/-- No other token can reach into what follows a pattern. -/
theorem not_reads_beyond (ht : t ≠ .closing) (happly : (s.within o).apply t = some s')
    (hafter : after <:+ ['$']) (hu : u.outer = []) : ¬ Reads s' after u := by
  intro h
  rw [apply_within (fun h => absurd h ht)] at happly
  obtain ⟨s'', -, rfl⟩ := Option.map_eq_some_iff.mp happly
  exact absurd ((h.outer_of_suffix hafter).symm.trans hu) (State.within_outer_ne_nil s'' o)

theorem suffix_cases {cs after : List Char} (h : after <:+ cs ++ [')', '$']) :
    (∃ left, after = left ++ [')', '$']) ∨ after <:+ ['$'] := by
  obtain h | h := List.suffix_or_suffix_of_suffix h (List.suffix_append cs [')', '$'])
  · obtain rfl | h := List.suffix_cons_iff.mp h
    · exact .inl ⟨[], rfl⟩
    · exact .inr h
  · obtain ⟨left, h⟩ := h
    exact .inl ⟨left, h.symm⟩

theorem Reads.of_within (h : Reads (s.within o) (cs ++ [')', '$']) u) (hu : u.outer = []) :
    (∃ t, Reads s cs t ∧ t.outer = [] ∧ u = t.ended o) ∨ ClosesUnopened s cs := by
  generalize hs : s.within o = s₀, hcs : cs ++ [')', '$'] = cs₀ at h
  induction h generalizing s cs with
  | done hskip =>
    subst hs
    exact absurd hu (State.within_outer_ne_nil s o)
  | @step s₀ s' u cs₀ c rest t after hskip hread happly h ih =>
    subst hs hcs
    rw [State.within_flags] at hskip hread
    cases hc : skip s.flags cs with
    | nil =>
      -- the token begins in what follows the pattern
      have htail : c :: rest <:+ [')', '$'] := by
        obtain happ | ⟨-, hz⟩ := skip_append_or s.flags cs [')', '$']
        · rw [hskip, hc] at happ
          exact happ ▸ List.suffix_rfl
        · exact hskip ▸ hz
      obtain htail | htail := List.suffix_cons_iff.mp htail
      · cases htail
        cases hread
        obtain ⟨houter, rfl⟩ := ended_of_closing happly h hu
        exact .inl ⟨s, .done hc, houter, rfl⟩
      · have hafter := (Token.read_suffix hread).trans ((List.suffix_cons c rest).trans htail)
        have ht : t ≠ .closing := by
          rintro rfl
          obtain ⟨rfl, rfl⟩ := Token.read_closing hread
          obtain htail | htail := List.suffix_cons_iff.mp htail
          · cases htail
          · exact absurd (List.suffix_nil.mp htail) nofun
        exact absurd h (not_reads_beyond ht happly hafter hu)
    | cons d left =>
      -- the token begins in the pattern
      have happ := (skip_append_or s.flags cs [')', '$']).resolve_right
        (fun h => List.cons_ne_nil d left (hc.symm.trans h.1))
      rw [hskip, hc, List.cons_append, List.cons.injEq] at happ
      obtain ⟨rfl, rfl⟩ := happ
      obtain ⟨after, rfl⟩ | hafter := suffix_cases (Token.read_suffix hread)
      · by_cases hclose : t = .closing ∧ s.outer = []
        · obtain ⟨rfl, houter⟩ := hclose
          obtain ⟨rfl, -⟩ := Token.read_closing hread
          exact .inr (.here hc houter)
        rw [apply_within (fun ht houter => hclose ⟨ht, houter⟩)] at happly
        obtain ⟨s', hplain, rfl⟩ := Option.map_eq_some_iff.mp happly
        obtain hread | ⟨hdangling, l, rfl⟩ := Token.read_cut hread
        · obtain ⟨t, ht, houter, rfl⟩ | hunopened := ih hu rfl rfl
          · exact .inl ⟨t, .step hc hread hplain ht, houter, rfl⟩
          · exact .inr (.later hc hread hplain hunopened)
        · cases hplain
          exact absurd h (not_reads_dangling hdangling)
      · have ht : t ≠ .closing := by
          rintro rfl
          obtain ⟨-, rfl⟩ := Token.read_closing hread
          have hlen := hafter.length_le
          simp only [List.length_append, List.length_cons, List.length_nil] at hlen
          omega
        exact absurd h (not_reads_beyond ht happly hafter hu)

end ScrapeFleet.Regex.Pattern
