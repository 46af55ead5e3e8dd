import Mathlib.Data.List.DropRight
import ScrapeFleet.Text.Blank

/-!
# Lines and trimming

A text of ended lines is split into the pieces of its lines.  Trimming stops at the first
and at the last character that is not blank.
-/

namespace ScrapeFleet.Text

theorem splitOn_flatMap_ended (ls : List (List Char)) :
    (ls.flatMap (· ++ ['\n'])).splitOn '\n' = ls.flatMap (·.splitOn '\n') ++ [[]] := by
  induction ls with
  | nil => rfl
  | cons l rest ih =>
      rw [List.flatMap_cons, List.flatMap_cons, List.append_assoc, List.singleton_append,
        List.splitOn_append_cons_self, ih, List.append_assoc]

theorem lines_flatMap_ended (ls : List (List Char)) :
    lines (ls.flatMap (· ++ ['\n'])) = ls.flatMap (·.splitOn '\n') := by
  simp [lines, splitOn_flatMap_ended]

theorem isBlank_of_visible {c : Char} (hlow : 33 ≤ c.toNat) (hhigh : c.toNat ≤ 126) :
    isBlank c = false := by
  simp only [isBlank, Bool.or_eq_false_iff, Bool.and_eq_false_iff, decide_eq_false_iff_not]
  omega

theorem trimStart_cons {c : Char} (hc : isBlank c = false) (cs : List Char) :
    trimStart (c :: cs) = c :: cs := by
  simp [trimStart, hc]

theorem trimEnd_append_cons {c : Char} (hc : isBlank c = false) (before after : List Char) :
    trimEnd (before ++ c :: after) = before ++ c :: trimEnd after := by
  simp [trimEnd, List.dropWhile_append, hc]

theorem trimStart_append_of_blanks {blanks : List Char} (h : ∀ c ∈ blanks, isBlank c = true)
    (cs : List Char) : trimStart (blanks ++ cs) = trimStart cs :=
  List.dropWhile_append_of_pos h

theorem trimEnd_append_of_blanks {blanks : List Char} (h : ∀ c ∈ blanks, isBlank c = true)
    (cs : List Char) : trimEnd (cs ++ blanks) = trimEnd cs := by
  have hreverse : ∀ c ∈ blanks.reverse, isBlank c = true := fun c hc => h c (List.mem_reverse.1 hc)
  rw [trimEnd, List.reverse_append, List.dropWhile_append_of_pos hreverse, trimEnd]

theorem trimStart_trimStart (cs : List Char) : trimStart (trimStart cs) = trimStart cs :=
  List.dropWhile_idempotent _ _

theorem exists_blanks (cs : List Char) :
    ∃ blanks, (∀ c ∈ blanks, isBlank c = true) ∧ cs = trimEnd cs ++ blanks := by
  refine ⟨(cs.reverse.takeWhile isBlank).reverse, fun c hc => ?_, ?_⟩
  · exact List.all_eq_true.1 List.all_takeWhile c (List.mem_reverse.1 hc)
  · rw [trimEnd, ← List.reverse_append, List.takeWhile_append_dropWhile, List.reverse_reverse]

theorem exists_trimStart (cs : List Char) :
    ∃ blanks, (∀ c ∈ blanks, isBlank c = true) ∧ cs = blanks ++ trimStart cs :=
  ⟨cs.takeWhile isBlank, fun c hc => List.all_eq_true.1 List.all_takeWhile c hc,
    List.takeWhile_append_dropWhile.symm⟩

theorem exists_trim (cs : List Char) :
    ∃ before after, (∀ c ∈ before, isBlank c = true) ∧ (∀ c ∈ after, isBlank c = true) ∧
      cs = before ++ trim cs ++ after := by
  obtain ⟨before, hbefore, hstart⟩ := exists_trimStart cs
  obtain ⟨after, hafter, hend⟩ := exists_blanks (trimStart cs)
  refine ⟨before, after, hbefore, hafter, ?_⟩
  rw [trim, List.append_assoc, ← hend, ← hstart]

theorem trimEnd_eq_self {cs : List Char} (hlast : ∀ c ∈ cs.getLast?, isBlank c = false) :
    trimEnd cs = cs := by
  cases h : cs.getLast? with
  | none =>
      obtain rfl := List.getLast?_eq_none_iff.1 h
      rfl
  | some c =>
      obtain ⟨before, rfl⟩ := List.getLast?_eq_some_iff.1 h
      exact trimEnd_append_cons (hlast c h) before []

theorem trim_eq_self {cs : List Char} (hfirst : ∀ c ∈ cs.head?, isBlank c = false)
    (hlast : ∀ c ∈ cs.getLast?, isBlank c = false) : trim cs = cs := by
  have hstart : trimStart cs = cs := by
    cases cs with
    | nil => rfl
    | cons c rest => exact trimStart_cons (hfirst c rfl) rest
  rw [trim, hstart, trimEnd_eq_self hlast]

theorem trim_between {before after cs : List Char} (hbefore : ∀ c ∈ before, isBlank c = true)
    (hafter : ∀ c ∈ after, isBlank c = true) (hfirst : ∀ c ∈ cs.head?, isBlank c = false)
    (hlast : ∀ c ∈ cs.getLast?, isBlank c = false) (hne : cs ≠ []) :
    trim (before ++ cs ++ after) = cs := by
  obtain ⟨c, rest, rfl⟩ := List.exists_cons_of_ne_nil hne
  rw [trim, List.append_assoc, trimStart_append_of_blanks hbefore, List.cons_append,
    trimStart_cons (hfirst c rfl), ← List.cons_append, trimEnd_append_of_blanks hafter,
    trimEnd_eq_self hlast]

theorem firstWord_append {blanks word after : List Char} (hblanks : ∀ c ∈ blanks, isBlank c = true)
    (hne : word ≠ []) (hword : ∀ c ∈ word, isBlank c = false)
    (hafter : ∀ c ∈ after.head?, isBlank c = true) : firstWord (blanks ++ (word ++ after)) = word := by
  have hstart : trimStart (word ++ after) = word ++ after := by
    obtain ⟨c, rest, rfl⟩ := List.exists_cons_of_ne_nil hne
    exact trimStart_cons (hword c List.mem_cons_self) _
  have hend : after.takeWhile (fun c => !isBlank c) = [] := by
    cases after with
    | nil => rfl
    | cons c rest => simp [hafter c rfl]
  have hin : ∀ c ∈ word, (!isBlank c) = true := fun c hc => by simp [hword c hc]
  rw [firstWord, trimStart_append_of_blanks hblanks, hstart, List.takeWhile_append_of_pos hin, hend,
    List.append_nil]

end ScrapeFleet.Text
