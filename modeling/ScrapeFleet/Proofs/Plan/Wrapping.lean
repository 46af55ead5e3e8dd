import Mathlib.Algebra.Ring.Int.Defs
import ScrapeFleet.Data.Word

/-!
# Sums that wrap around

A sum wraps around wherever it leaves the range of signed 64-bit numbers.  Partial sums
may do so: the last one is exact as soon as the whole sum is in the range.
-/

namespace ScrapeFleet.Word

def Fits (n : Int) : Prop := minSigned ≤ n ∧ n ≤ maxSigned

instance (n : Int) : Decidable (Fits n) := inferInstanceAs (Decidable (_ ∧ _))

theorem fits_wrap (n : Int) : Fits (wrap n) := by
  have hlow := @Int.le_bmod n count64 (by decide)
  have hhigh := @Int.bmod_lt n count64 (by decide)
  unfold Fits wrap minSigned maxSigned
  unfold count64 at *
  omega

theorem wrap_eq_self {n : Int} (h : Fits n) : wrap n = n := by
  obtain ⟨hlow, hhigh⟩ := h
  unfold minSigned at hlow
  unfold maxSigned at hhigh
  unfold wrap count64
  exact Int.bmod_eq_of_le (by omega) (by omega)

theorem wrap_wrap_add (a b : Int) : wrap (wrap a + b) = wrap (a + b) := Int.bmod_add_bmod ..

theorem wrap_add_wrap (a b : Int) : wrap (a + wrap b) = wrap (a + b) := Int.add_bmod_bmod ..

theorem wrap_wrap_sub (a b : Int) : wrap (wrap a - b) = wrap (a - b) := Int.bmod_sub_bmod ..

theorem add_eq {a b : Int} (h : Fits (a + b)) : add a b = a + b := wrap_eq_self h

theorem sub_eq {a b : Int} (h : Fits (a - b)) : sub a b = a - b := wrap_eq_self h

theorem fits_add (a b : Int) : Fits (add a b) := fits_wrap _

theorem add_zero {a : Int} (ha : Fits a) : add a 0 = a := by
  rw [add, Int.add_zero, wrap_eq_self ha]

theorem foldl_add {a : Int} (ha : Fits a) (l : List Int) : l.foldl add a = wrap (a + l.sum) := by
  induction l generalizing a with
  | nil => rw [List.foldl_nil, List.sum_nil, Int.add_zero, wrap_eq_self ha]
  | cons b l ih =>
      rw [List.foldl_cons, ih (fits_add a b), add, wrap_wrap_add, List.sum_cons, Int.add_assoc]

/-- The start may lie outside the range, if the whole sum does not. -/
theorem foldl_add_eq {a : Int} {l : List Int} (h : Fits (a + l.sum)) :
    l.foldl add a = a + l.sum := by
  cases l with
  | nil => rw [List.foldl_nil, List.sum_nil, Int.add_zero]
  | cons b l =>
      rw [List.foldl_cons, foldl_add (fits_add a b), add, wrap_wrap_add, Int.add_assoc,
        ← List.sum_cons, wrap_eq_self h]

theorem sum_eq_wrap (l : List Int) : sum l = wrap l.sum := by
  rw [sum, foldl_add (by decide), Int.zero_add]

theorem fits_sum (l : List Int) : Fits (sum l) := sum_eq_wrap l ▸ fits_wrap _

theorem sum_append (l l' : List Int) : sum (l ++ l') = l'.foldl add (sum l) := List.foldl_append ..

theorem sum_eq {l : List Int} (h : Fits l.sum) : sum l = l.sum := by
  rw [sum_eq_wrap, wrap_eq_self h]

end ScrapeFleet.Word
