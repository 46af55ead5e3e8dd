import ScrapeFleet.Duration
import ScrapeFleet.Proofs.Decimal.Digits
import ScrapeFleet.Proofs.Text.Lines

/-!
# Which texts are lengths of time

A length of time is written as a number with a unit right after it.  The units overlap, as
`ms` begins like `m` and ends like `s`; they are tried in a fixed order, and the first one
with which the text ends is taken for good.  It is the one that was written: a number ends
with a digit, and no unit has one.
-/

namespace ScrapeFleet

/-! ## Tails -/

namespace Text

theorem dropTail?_eq_some_iff {tail cs before : List Char} :
    dropTail? tail cs = some before ↔ cs = before ++ tail := by
  unfold dropTail?
  constructor
  · intro h
    split at h
    · rename_i htail
      rw [← Option.some.inj h]
      exact (List.suffix_iff_eq_append.1 (List.isSuffixOf_iff_suffix.1 htail)).symm
    · cases h
  · rintro rfl
    simp

theorem dropTail?_append {cs tail : List Char} (hlast : ∀ c ∈ cs.getLast?, c ∉ tail)
    (rest : List Char) :
    dropTail? tail (cs ++ rest) = (dropTail? tail rest).map (cs ++ ·) := by
  refine Option.ext fun before => ?_
  simp only [Option.map_eq_some_iff, dropTail?_eq_some_iff, List.append_eq_append_iff]
  constructor
  · rintro (⟨between, rfl, hrest⟩ | ⟨reached, hcs, htail⟩)
    · exact ⟨between, hrest, rfl⟩
    · cases reached using List.reverseRecOn with
      | nil => exact ⟨[], by simpa using htail.symm, by simpa using hcs⟩
      | append_singleton reached c =>
          have hc : c ∉ tail := hlast c (by simp [hcs])
          exact absurd (by simp [htail]) hc
  · rintro ⟨between, hrest, rfl⟩
    exact .inl ⟨between, rfl, hrest⟩

end Text

namespace Duration

/-! ## Written lengths of time -/

inductive Scale where
  | plain
  | seconds
  | millis
  | minutes
  | hours

namespace Scale

def mark : Scale → List Char
  | plain => []
  | seconds => ['s']
  | millis => ['m', 's']
  | minutes => ['m']
  | hours => ['h']

def nanos : Scale → Nat
  | plain => 1000000000
  | seconds => 1000000000
  | millis => 1000000
  | minutes => 60 * 1000000000
  | hours => 3600 * 1000000000

def times (u : Scale) (n : Nat) : Duration := ⟨n * u.nanos⟩

end Scale

/-- An optional plus sign and decimal digits, which make up the number `n`. -/
def IsCount (cs : List Char) (n : Nat) : Prop :=
  ∃ digits, (cs = digits ∨ cs = '+' :: digits) ∧ digits ≠ [] ∧
    (∀ c ∈ digits, c.isDigit = true) ∧ Nat.ofDigitChars 10 digits 0 = n

/-- The text is the number `n` and right after it the mark of `u`, with nothing but blanks
around them. -/
def Spells (s : String) (n : Nat) (u : Scale) : Prop :=
  ∃ before number after, s.toList = before ++ (number ++ u.mark) ++ after ∧
    (∀ c ∈ before, Text.isBlank c = true) ∧ (∀ c ∈ after, Text.isBlank c = true) ∧
    IsCount number n

/-! ## Numbers -/

theorem unsigned?_eq_some_iff {digits : List Char} {n : Nat} :
    unsigned? digits = some n ↔
      (digits ≠ [] ∧ (∀ c ∈ digits, c.isDigit = true) ∧ Nat.ofDigitChars 10 digits 0 = n) ∧
        n < Word.count64 := by
  have hdigits : (digits.isEmpty || !digits.all Char.isDigit) = true ↔
      ¬(digits ≠ [] ∧ ∀ c ∈ digits, c.isDigit = true) := by
    simp [imp_iff_not_or]
  unfold unsigned?
  rw [← Literal.digitsToNat_eq_ofDigitChars]
  by_cases hnumber : digits ≠ [] ∧ ∀ c ∈ digits, c.isDigit = true
  · rw [if_neg (by rw [hdigits]; exact not_not_intro hnumber)]
    by_cases hfits : Literal.digitsToNat digits < Word.count64
    · rw [if_pos hfits]
      constructor
      · rintro ⟨⟩
        exact ⟨⟨hnumber.1, hnumber.2, rfl⟩, hfits⟩
      · rintro ⟨⟨-, -, rfl⟩, -⟩
        rfl
    · rw [if_neg hfits]
      refine iff_of_false (fun h => nomatch h) ?_
      rintro ⟨⟨-, -, rfl⟩, hn⟩
      exact hfits hn
  · rw [if_pos (hdigits.2 hnumber)]
    exact iff_of_false (fun h => nomatch h) fun h => hnumber ⟨h.1.1, h.1.2.1⟩

theorem count?_eq_some_iff {cs : List Char} {n : Nat} :
    count? cs = some n ↔ IsCount cs n ∧ n < Word.count64 := by
  unfold IsCount
  constructor
  · intro h
    unfold count? at h
    split at h
    · rename_i digits
      obtain ⟨hcount, hn⟩ := unsigned?_eq_some_iff.1 h
      exact ⟨⟨digits, .inr rfl, hcount⟩, hn⟩
    · obtain ⟨hcount, hn⟩ := unsigned?_eq_some_iff.1 h
      exact ⟨⟨cs, .inl rfl, hcount⟩, hn⟩
  · rintro ⟨⟨digits, hsign, hcount⟩, hn⟩
    have hread := unsigned?_eq_some_iff.2 ⟨hcount, hn⟩
    obtain rfl | rfl := hsign
    · unfold count?
      -- Digits do not begin with a sign that would be taken off them.
      split
      · exact absurd (hcount.2.1 '+' List.mem_cons_self) (by decide)
      · exact hread
    · exact hread

namespace IsCount

variable {cs : List Char} {n : Nat}

theorem ne_nil (h : IsCount cs n) : cs ≠ [] := by
  obtain ⟨digits, rfl | rfl, hne, -, -⟩ := h
  · exact hne
  · exact List.cons_ne_nil _ _

theorem isDigit_last (h : IsCount cs n) : ∀ c ∈ cs.getLast?, c.isDigit = true := by
  obtain ⟨digits, hcs, hne, hdigits, -⟩ := h
  have hlast : cs.getLast? = digits.getLast? := by
    obtain rfl | rfl := hcs
    · rfl
    · exact List.getLast?_cons_of_ne_nil hne
  intro c hc
  rw [hlast] at hc
  exact hdigits c (List.mem_of_getLast? hc)

theorem isBlank_eq_false (h : IsCount cs n) {c : Char} (hc : c ∈ cs) : Text.isBlank c = false := by
  obtain ⟨digits, hcs, -, hdigits, -⟩ := h
  have hc : c = '+' ∨ c ∈ digits := by
    obtain rfl | rfl := hcs
    · exact .inr hc
    · exact List.mem_cons.1 hc
  obtain rfl | hc := hc
  · decide
  · have hrange := Literal.toNat_of_isDigit (hdigits c hc)
    exact Text.isBlank_of_visible (by omega) (by omega)

end IsCount

/-! ## Units -/

theorem ofSpans_eq {each n : Nat}
    (hfits : (Duration.mk (n * (each * 1000000000))).secs < Word.count64) :
    ofSpans each n = ⟨n * (each * 1000000000)⟩ := by
  rw [← Nat.mul_assoc] at hfits ⊢
  rw [secs, Nat.mul_div_cancel _ (by decide)] at hfits
  rw [ofSpans, Nat.mod_eq_of_lt hfits, ofSecs]

namespace Scale

theorem isDigit_of_mem_mark (u : Scale) : ∀ c ∈ u.mark, c.isDigit = false := by
  cases u <;> simp [mark]

theorem isBlank_of_mem_mark (u : Scale) : ∀ c ∈ u.mark, Text.isBlank c = false := by
  cases u <;> simp [mark, Text.isBlank]

def reading : Scale → Nat → Duration
  | plain => ofSecs
  | seconds => ofSecs
  | millis => ofMillis
  | minutes => ofSpans 60
  | hours => ofSpans 3600

theorem units_eq : units =
    [millis, seconds, minutes, hours, plain].map fun u => (u.mark, u.reading) := rfl

/-- Nothing wraps around while the seconds are a 64-bit number. -/
theorem reading_eq_times {u : Scale} {n : Nat} (hfits : (u.times n).secs < Word.count64) :
    u.reading n = u.times n := by
  cases u with
  | plain => rfl
  | seconds => rfl
  | millis => rfl
  | minutes => exact ofSpans_eq hfits
  | hours => exact ofSpans_eq hfits

end Scale

theorem exists_unit_of_parseUnits {cs : List Char} {us : List (List Char × (Nat → Duration))}
    {d : Duration} (h : parseUnits cs us = some d) :
    ∃ p ∈ us, ∃ number n, cs = number ++ p.1 ∧ count? number = some n ∧ p.2 n = d := by
  induction us with
  | nil => cases h
  | cons p rest ih =>
      unfold parseUnits at h
      split at h
      · rename_i number hnumber
        obtain ⟨n, hn, hd⟩ := Option.map_eq_some_iff.1 h
        exact ⟨p, List.mem_cons_self, number, n, Text.dropTail?_eq_some_iff.1 hnumber, hn, hd⟩
      · obtain ⟨q, hq, hread⟩ := ih h
        exact ⟨q, List.mem_cons_of_mem p hq, hread⟩

theorem parseUnits_append_mark {number : List Char} {n : Nat} (hnumber : IsCount number n)
    (u : Scale) : parseUnits (number ++ u.mark) units = (count? number).map u.reading := by
  have hdrop (v : Scale) : Text.dropTail? v.mark (number ++ u.mark) =
      (Text.dropTail? v.mark u.mark).map (number ++ ·) := by
    refine Text.dropTail?_append (fun c hc hmem => ?_) _
    have hdigit := hnumber.isDigit_last c hc
    rw [v.isDigit_of_mem_mark c hmem] at hdigit
    cases hdigit
  simp only [Scale.units_eq, List.map_cons, List.map_nil, parseUnits, hdrop]
  cases u <;> simp [Scale.mark, Text.dropTail?, List.suffix_cons_iff]

/-! ## Texts -/

theorem spells_iff {s : String} {n : Nat} {u : Scale} :
    Spells s n u ↔ ∃ number, IsCount number n ∧ Text.trim s.toList = number ++ u.mark := by
  constructor
  · rintro ⟨before, number, after, hs, hbefore, hafter, hnumber⟩
    have hvisible : ∀ c ∈ number ++ u.mark, Text.isBlank c = false := fun c hc =>
      (List.mem_append.1 hc).elim hnumber.isBlank_eq_false (u.isBlank_of_mem_mark c)
    refine ⟨number, hnumber, ?_⟩
    rw [hs]
    exact Text.trim_between hbefore hafter (fun c hc => hvisible c (List.mem_of_head? hc))
      (fun c hc => hvisible c (List.mem_of_getLast? hc))
      (List.append_ne_nil_of_left_ne_nil hnumber.ne_nil _)
  · rintro ⟨number, hnumber, htrim⟩
    obtain ⟨before, after, hbefore, hafter, hs⟩ := Text.exists_trim s.toList
    rw [htrim] at hs
    exact ⟨before, number, after, hs, hbefore, hafter, hnumber⟩

theorem parse?_eq_some_iff {s : String} {d : Duration} :
    parse? s = some d ↔ ∃ n u, Spells s n u ∧ n < Word.count64 ∧ u.reading n = d := by
  unfold parse?
  constructor
  · intro h
    obtain ⟨p, hp, number, n, htrim, hcount, hd⟩ := exists_unit_of_parseUnits h
    rw [Scale.units_eq] at hp
    obtain ⟨u, -, rfl⟩ := List.mem_map.1 hp
    obtain ⟨hnumber, hn⟩ := count?_eq_some_iff.1 hcount
    exact ⟨n, u, spells_iff.2 ⟨number, hnumber, htrim⟩, hn, hd⟩
  · rintro ⟨n, u, hspells, hn, rfl⟩
    obtain ⟨number, hnumber, htrim⟩ := spells_iff.1 hspells
    rw [htrim, parseUnits_append_mark hnumber, count?_eq_some_iff.2 ⟨hnumber, hn⟩]
    rfl

/-- A text is read as a length of time just if it spells a 64-bit number with a unit.  The length
is the one that it spells, as long as the seconds of that are a 64-bit number too. -/
theorem parse_exact (s : String) :
    ((∃ d, parse? s = some d) ↔ ∃ n u, Spells s n u ∧ n < Word.count64) ∧
      ∀ n u, Spells s n u → n < Word.count64 → (u.times n).secs < Word.count64 →
        parse? s = some (u.times n) := by
  constructor
  · constructor
    · rintro ⟨d, hd⟩
      obtain ⟨n, u, hspells, hn, -⟩ := parse?_eq_some_iff.1 hd
      exact ⟨n, u, hspells, hn⟩
    · rintro ⟨n, u, hspells, hn⟩
      exact ⟨u.reading n, parse?_eq_some_iff.2 ⟨n, u, hspells, hn, rfl⟩⟩
  · intro n u hspells hn hfits
    exact parse?_eq_some_iff.2 ⟨n, u, hspells, hn, Scale.reading_eq_times hfits⟩

def mostMinutes : String := "\u3000 +00307445734561825860m\n"

theorem parse_exact_mostMinutes :
    Spells mostMinutes 307445734561825860 .minutes ∧
      (Scale.minutes.times 307445734561825860).secs < Word.count64 ∧
      parse? mostMinutes = some (ofSecs 18446744073709551600) := by
  have hspells : Spells mostMinutes 307445734561825860 .minutes :=
    ⟨['\u3000', ' '], "+00307445734561825860".toList, ['\n'], by decide,
      List.all_eq_true.1 (by decide), List.all_eq_true.1 (by decide),
      "00307445734561825860".toList, .inr (by decide), by decide,
      List.all_eq_true.1 (by decide), by decide⟩
  have hfits : (Scale.minutes.times 307445734561825860).secs < Word.count64 := by decide
  obtain ⟨-, hlength⟩ := parse_exact mostMinutes
  exact ⟨hspells, hfits, hlength _ _ hspells (by decide) hfits⟩

end Duration

end ScrapeFleet
