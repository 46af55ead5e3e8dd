import ScrapeFleet.Proofs.Exposition.Grammar
import ScrapeFleet.Proofs.Exposition.Samples

/-!
# Counting is a sum over lines

Counting reads every line, whatever the rules are, and the rules only decide which samples
add to the sum.  So two texts on lines of their own count as much as both together, and a
fault is in the first line that cannot be read.
-/

namespace ScrapeFleet

/-! ## Lines -/

namespace Text

theorem lines_append_newline (a b : List Char) :
    lines (a ++ '\n' :: b) = a.splitOn '\n' ++ lines b := by
  have hne : b.splitOn '\n' ≠ [] := List.splitOn_ne_nil _ _
  unfold lines
  rw [List.splitOn_append_cons_self]
  simp only [List.getLast?_append_of_ne_nil _ hne, List.dropLast_append_of_ne_nil hne]
  split <;> rfl

theorem splitOn_newline_cases (cs : List Char) :
    cs.splitOn '\n' = lines cs ∨ cs.splitOn '\n' = lines cs ++ [[]] := by
  unfold lines
  by_cases hlast : (cs.splitOn '\n').getLast? = some []
  · right
    simp only [hlast, if_true]
    obtain ⟨before, hbefore⟩ := List.getLast?_eq_some_iff.1 hlast
    rw [hbefore, List.dropLast_concat]
  · left
    simp only [hlast, if_false]

end Text

namespace Exposition

theorem samplesOf_splitOn_eq_ok {cs : List Char} {reads : List Labels} :
    samplesOf (cs.splitOn '\n') = .ok reads ↔ samples cs = .ok reads := by
  unfold samples
  rcases Text.splitOn_newline_cases cs with h | h
  · rw [h]
  · -- The empty text after the last newline holds no sample.
    have hempty : samplesOf [[]] = .ok [] := rfl
    rw [h, samplesOf_append_eq_ok]
    simp [hempty]

/-! ## Sums -/

theorem count_eq_ok_iff {rules : List Relabel.Filter} {body : List Char} {k : Nat} :
    count rules body = .ok k ↔
      ∃ reads, samples body = .ok reads ∧ reads.countP (Relabel.keepsAll rules) = k :=
  countLines_eq_ok_iff

theorem count_append_newline {rules : List Relabel.Filter} {a b : List Char} {k : Nat} :
    count rules (a ++ '\n' :: b) = .ok k ↔
      ∃ m n, count rules a = .ok m ∧ count rules b = .ok n ∧ m + n = k := by
  have hsamples : ∀ {reads}, samples (a ++ '\n' :: b) = .ok reads ↔
      ∃ first second, samples a = .ok first ∧ samples b = .ok second ∧ reads = first ++ second := by
    intro reads
    rw [samples, Text.lines_append_newline, samplesOf_append_eq_ok]
    simp only [samplesOf_splitOn_eq_ok, samples]
  simp only [count_eq_ok_iff, hsamples]
  constructor
  · rintro ⟨_, ⟨first, second, hfirst, hsecond, rfl⟩, rfl⟩
    exact ⟨_, _, ⟨first, hfirst, rfl⟩, ⟨second, hsecond, rfl⟩, List.countP_append.symm⟩
  · rintro ⟨_, _, ⟨first, hfirst, rfl⟩, ⟨second, hsecond, rfl⟩, rfl⟩
    exact ⟨_, ⟨first, second, hfirst, hsecond, rfl⟩, List.countP_append⟩

/-! ## Rules -/

theorem countP_keepsAll_append_le (rules more : List Relabel.Filter) (reads : List Labels) :
    reads.countP (Relabel.keepsAll (rules ++ more)) ≤ reads.countP (Relabel.keepsAll rules) := by
  apply List.countP_mono_left
  intro ls _ hkeeps
  rw [Relabel.keepsAll, List.all_append, Bool.and_eq_true] at hkeeps
  exact hkeeps.1

theorem countP_keep_add_drop (f : Relabel.Filter) (reads : List Labels) :
    reads.countP (Relabel.keepsAll [{ f with action := .keep }]) +
      reads.countP (Relabel.keepsAll [{ f with action := .drop }]) = reads.length := by
  have hdrop : Relabel.keepsAll [{ f with action := .drop }] =
      fun ls => !Relabel.keepsAll [{ f with action := .keep }] ls := by
    funext ls
    simp [Relabel.keepsAll, Relabel.Filter.keeps, Relabel.Filter.isMatched, Relabel.Filter.subject]
  rw [hdrop]
  rw [List.length_eq_countP_add_countP (Relabel.keepsAll [{ f with action := .keep }])]
  simp

theorem count_keep_add_drop {f : Relabel.Filter} {body : List Char} {n : Nat} :
    count [] body = .ok n ↔ ∃ kept dropped,
      count [{ f with action := .keep }] body = .ok kept ∧
        count [{ f with action := .drop }] body = .ok dropped ∧ kept + dropped = n := by
  rw [count_nil_eq_ok_iff]
  simp only [count_eq_ok_iff]
  constructor
  · rintro ⟨reads, hreads, rfl⟩
    exact ⟨_, _, ⟨reads, hreads, rfl⟩, ⟨reads, hreads, rfl⟩, countP_keep_add_drop f reads⟩
  · rintro ⟨_, _, ⟨reads, hreads, rfl⟩, ⟨reads', hreads', rfl⟩, rfl⟩
    obtain rfl := Except.ok.inj (hreads.symm.trans hreads')
    exact ⟨reads, hreads, (countP_keep_add_drop f reads).symm⟩

/-! ## Faults -/

theorem countLines_cons_eq_error {rules : List Relabel.Filter} {n : Nat} {cs : List Char}
    {rest : List (List Char)} {read : Option Labels} {e : LineFault} (hread : line cs = .ok read) :
    countLines rules n (cs :: rest) = .error e ↔ countLines rules (n + 1) rest = .error e := by
  rw [countLines, hread]
  cases read with
  | none => rfl
  | some ls => cases countLines rules (n + 1) rest <;> simp [Except.map]

/-- The fault is that of the first line which cannot be read; the rules do not matter. -/
theorem countLines_eq_error_iff {rules : List Relabel.Filter} {n m : Nat} {f : Fault}
    {ls : List (List Char)} :
    countLines rules n ls = .error ⟨m, f⟩ ↔ ∃ before bad after, ls = before ++ bad :: after ∧
      m = before.length + n ∧ (∀ l ∈ before, IsFine l) ∧ line bad = .error f := by
  induction ls generalizing n with
  | nil => simp [countLines]
  | cons cs rest ih =>
      cases hread : line cs with
      | error f' =>
          have hbad : ¬ IsFine cs := by
            rw [← exists_line_iff, hread]
            simp
          rw [countLines, hread]
          constructor
          · intro h
            obtain ⟨rfl, rfl⟩ := LineFault.mk.inj (Except.error.inj h)
            exact ⟨[], cs, rest, rfl, by simp, by simp, hread⟩
          · rintro ⟨before, bad, after, hls, rfl, hfine, hf⟩
            cases before with
            | nil =>
                obtain ⟨rfl, -⟩ := List.cons.inj hls
                rw [hread] at hf
                simp [Except.error.inj hf]
            | cons l before =>
                obtain ⟨rfl, -⟩ := List.cons.inj hls
                exact absurd (hfine _ List.mem_cons_self) hbad
      | ok read =>
          rw [countLines_cons_eq_error hread, ih]
          constructor
          · rintro ⟨before, bad, after, rfl, rfl, hfine, hf⟩
            refine ⟨cs :: before, bad, after, rfl, by simp only [List.length_cons]; omega, ?_, hf⟩
            exact List.forall_mem_cons.2 ⟨exists_line_iff.1 ⟨read, hread⟩, hfine⟩
          · rintro ⟨before, bad, after, hls, rfl, hfine, hf⟩
            cases before with
            | nil =>
                obtain ⟨rfl, -⟩ := List.cons.inj hls
                rw [hread] at hf
                cases hf
            | cons l before =>
                obtain ⟨rfl, rfl⟩ := List.cons.inj hls
                refine ⟨before, bad, after, rfl, by simp only [List.length_cons]; omega, ?_, hf⟩
                exact fun l' hl' => hfine l' (List.mem_cons_of_mem _ hl')

theorem exists_error_line_iff {cs : List Char} : (∃ f, line cs = .error f) ↔ ¬ IsFine cs := by
  rw [← exists_line_iff]
  cases line cs <;> simp

theorem exists_count_eq_error_iff {rules : List Relabel.Filter} {body : List Char} {n : Nat} :
    (∃ f, count rules body = .error ⟨n, f⟩) ↔ ∃ before bad after,
      Text.lines body = before ++ bad :: after ∧ n = before.length + 1 ∧
        (∀ l ∈ before, IsFine l) ∧ ¬ IsFine bad := by
  simp only [count, countLines_eq_error_iff, ← exists_error_line_iff]
  constructor
  · rintro ⟨f, before, bad, after, hls, hn, hfine, hf⟩
    exact ⟨before, bad, after, hls, hn, hfine, f, hf⟩
  · rintro ⟨before, bad, after, hls, hn, hfine, f, hf⟩
    exact ⟨f, before, bad, after, hls, hn, hfine, hf⟩

theorem count_eq_error_iff_of_rules (rules rules' : List Relabel.Filter) {body : List Char}
    {e : LineFault} : count rules body = .error e ↔ count rules' body = .error e := by
  obtain ⟨n, f⟩ := e
  rw [count, count, countLines_eq_error_iff, countLines_eq_error_iff]

theorem count_append_rules (rules more : List Relabel.Filter) (body : List Char) :
    (∃ e, count rules body = .error e ∧ count (rules ++ more) body = .error e) ∨
      ∃ m n, count rules body = .ok m ∧ count (rules ++ more) body = .ok n ∧ n ≤ m := by
  cases hcount : count rules body with
  | error e => exact .inl ⟨e, rfl, (count_eq_error_iff_of_rules rules _).1 hcount⟩
  | ok m =>
      obtain ⟨reads, hreads, rfl⟩ := count_eq_ok_iff.1 hcount
      exact .inr ⟨_, _, rfl, count_eq_ok_iff.2 ⟨reads, hreads, rfl⟩,
        countP_keepsAll_append_le rules more reads⟩

/-- Two texts with a newline between them can be counted just if both can, and then their counts
add up.  Rules have no part in whether and where counting fails, which is at the first line that is
neither blank nor a comment nor a sample.  More rules count no more, and a rule that keeps together
with the one that drops the same counts all. -/
theorem count_sums_lines :
    (∀ (rules : List Relabel.Filter) (a b : List Char) (k : Nat),
      count rules (a ++ '\n' :: b) = .ok k ↔
        ∃ m n, count rules a = .ok m ∧ count rules b = .ok n ∧ m + n = k) ∧
    (∀ (rules rules' : List Relabel.Filter) (body : List Char) (e : LineFault),
      count rules body = .error e ↔ count rules' body = .error e) ∧
    (∀ (rules : List Relabel.Filter) (body : List Char) (n : Nat),
      (∃ f, count rules body = .error ⟨n, f⟩) ↔ ∃ before bad after,
        Text.lines body = before ++ bad :: after ∧ n = before.length + 1 ∧
          (∀ l ∈ before, IsFine l) ∧ ¬ IsFine bad) ∧
    (∀ (rules more : List Relabel.Filter) (body : List Char),
      (∃ e, count rules body = .error e ∧ count (rules ++ more) body = .error e) ∨
        ∃ m n, count rules body = .ok m ∧ count (rules ++ more) body = .ok n ∧ n ≤ m) ∧
    ∀ (f : Relabel.Filter) (body : List Char) (n : Nat),
      count [] body = .ok n ↔ ∃ kept dropped,
        count [{ f with action := .keep }] body = .ok kept ∧
          count [{ f with action := .drop }] body = .ok dropped ∧ kept + dropped = n :=
  ⟨fun _ _ _ _ => count_append_newline,
    fun rules rules' _ _ => count_eq_error_iff_of_rules rules rules',
    fun _ _ _ => exists_count_eq_error_iff, count_append_rules, fun _ _ _ => count_keep_add_drop⟩

end Exposition

end ScrapeFleet
