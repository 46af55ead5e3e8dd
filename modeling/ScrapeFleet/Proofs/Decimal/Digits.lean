import ScrapeFleet.Decimal.Literal

/-!
# Decimal numerals

The numeral of a number consists of digits, begins with a zero only if that is all of it,
and is read back as the number.
-/

namespace ScrapeFleet.Literal

theorem isDigit_of_mem_numeral {n : Nat} {c : Char} (hc : c ∈ Nat.toDigits 10 n) :
    c.isDigit = true := Nat.isDigit_of_mem_toDigits (by decide) (by decide) hc

theorem toNat_of_isDigit {c : Char} (hc : c.isDigit = true) : 48 ≤ c.toNat ∧ c.toNat ≤ 57 :=
  Char.isDigit_iff_toNat.1 hc

theorem digits_append {ds rest : List Char} (hds : ∀ c ∈ ds, c.isDigit = true)
    (hrest : ∀ c ∈ rest.head?, c.isDigit = false) : digits (ds ++ rest) = (ds, rest) := by
  have hstop : rest.takeWhile Char.isDigit = [] ∧ rest.dropWhile Char.isDigit = rest := by
    cases rest with
    | nil => exact ⟨rfl, rfl⟩
    | cons c more =>
        have hc := hrest c rfl
        simp [hc]
  rw [digits, List.takeWhile_append_of_pos hds, List.dropWhile_append_of_pos hds, hstop.1, hstop.2,
    List.append_nil]

theorem head?_numeral_ne {n : Nat} (hn : 0 < n) : (Nat.toDigits 10 n).head? ≠ some '0' := by
  induction n using Nat.strongRecOn with
  | _ n ih =>
      rw [Nat.toDigits_eq_if (by decide)]
      split
      · intro h
        have hzero : Nat.digitChar n = '0' := Option.some.inj h
        have hvalue := Nat.toNat_digitChar_of_lt_ten ‹n < 10›
        rw [hzero] at hvalue
        have hchar : '0'.toNat = 48 := rfl
        omega
      · rw [List.head?_append, List.head?_eq_some_head Nat.toDigits_ne_nil, Option.some_or,
          ← List.head?_eq_some_head Nat.toDigits_ne_nil]
        exact ih (n / 10) (by omega) (by omega)

theorem numeral_noLeadingZero (n : Nat) :
    (Nat.toDigits 10 n).length = 1 ∨ (Nat.toDigits 10 n).head? ≠ some '0' := by
  cases n with
  | zero => exact .inl rfl
  | succ n => exact .inr (head?_numeral_ne (by omega))

theorem digitsToNat_eq_ofDigitChars (cs : List Char) :
    digitsToNat cs = Nat.ofDigitChars 10 cs 0 := by
  rw [Nat.ofDigitChars_eq_foldl, digitsToNat]
  congr 1
  funext acc c
  rw [Nat.mul_comm]
  rfl

theorem digitsToNat_numeral (n : Nat) : digitsToNat (Nat.toDigits 10 n) = n := by
  rw [digitsToNat_eq_ofDigitChars, Nat.ofDigitChars_ten_toDigits]

theorem digits_numeral (n : Nat) {rest : List Char} (hrest : ∀ c ∈ rest.head?, c.isDigit = false) :
    digits (Nat.toDigits 10 n ++ rest) = (Nat.toDigits 10 n, rest) :=
  digits_append (fun _ hc => isDigit_of_mem_numeral hc) hrest

theorem isDecimal_numeral (n : Nat) : isDecimal (Nat.toDigits 10 n) = true := by
  have hdigits : digits (Nat.toDigits 10 n) = (Nat.toDigits 10 n, []) := by
    simpa using digits_numeral n (by simp : ∀ c ∈ ([] : List Char).head?, c.isDigit = false)
  simp [isDecimal, hdigits, isExponent]

theorem dropSign_numeral (n : Nat) : dropSign (Nat.toDigits 10 n) = Nat.toDigits 10 n := by
  unfold dropSign
  split
  · rename_i rest heq
    exact absurd (isDigit_of_mem_numeral (n := n) (heq ▸ List.mem_cons_self)) (by decide)
  · rename_i rest heq
    exact absurd (isDigit_of_mem_numeral (n := n) (heq ▸ List.mem_cons_self)) (by decide)
  · rfl

theorem isFloat_of_isDecimal {cs : List Char} (h : isDecimal (dropSign cs) = true) :
    isFloat cs = true := by
  simp [isFloat, h]

end ScrapeFleet.Literal
