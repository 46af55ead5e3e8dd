import Mathlib.Algebra.Order.Floor.Ring
import Mathlib.Data.Rat.Floor
import Mathlib.Tactic.FieldSimp
import Mathlib.Tactic.Linarith
import Mathlib.Tactic.Positivity
import ScrapeFleet.Decimal.Binary64

/-!
# Rounding keeps the order

Within one binade, values are rounded to multiples of one unit, which keeps their
order.  Between two binades lies a power of two, which is a value of the format, so
what is below it is rounded to at most it, and what is above it to at least it.
-/

namespace ScrapeFleet.Binary64

/-! ## Powers of two -/

theorem twoPow_eq_zpow (k : Int) : twoPow k = (2 : Rat) ^ k := by
  cases k with
  | ofNat n => simp [twoPow]
  | negSucc n => simp [twoPow, zpow_negSucc]

theorem twoPow_pos (k : Int) : 0 < twoPow k := by
  rw [twoPow_eq_zpow]
  exact zpow_pos (by norm_num) k

theorem twoPow_le_twoPow_iff {k l : Int} : twoPow k ≤ twoPow l ↔ k ≤ l := by
  rw [twoPow_eq_zpow, twoPow_eq_zpow]
  exact zpow_le_zpow_iff_right₀ (by norm_num)

theorem twoPow_lt_twoPow_iff {k l : Int} : twoPow k < twoPow l ↔ k < l := by
  rw [twoPow_eq_zpow, twoPow_eq_zpow]
  exact zpow_lt_zpow_iff_right₀ (by norm_num)

theorem twoPow_div_twoPow {k l : Int} (h : l ≤ k) :
    twoPow k / twoPow l = ((2 ^ (k - l).toNat : Int) : Rat) := by
  rw [twoPow_eq_zpow, twoPow_eq_zpow, ← zpow_sub₀ (by norm_num)]
  obtain ⟨n, hn⟩ := Int.eq_ofNat_of_zero_le (Int.sub_nonneg.2 h)
  rw [hn]
  simp

theorem twoPow_ofNat (n : Nat) : twoPow n = ((2 ^ n : Nat) : Rat) := by
  rw [twoPow_eq_zpow, zpow_natCast]
  push_cast
  rfl

theorem twoPow_add (k l : Int) : twoPow (k + l) = twoPow k * twoPow l := by
  simp only [twoPow_eq_zpow]
  exact zpow_add₀ (by norm_num) k l

theorem twoPow_log2_natCast {n : Nat} (hn : n ≠ 0) :
    twoPow (Nat.log2 n) ≤ n ∧ (n : Rat) < twoPow (Nat.log2 n + 1) := by
  have hcast : ((Nat.log2 n : Int) + 1) = ((Nat.log2 n + 1 : Nat) : Int) := rfl
  rw [hcast, twoPow_ofNat, twoPow_ofNat]
  exact ⟨by exact_mod_cast Nat.log2_self_le hn, by exact_mod_cast Nat.lt_log2_self⟩

theorem twoPow_log2_le_lt {x : Rat} (hx : 0 < x) :
    twoPow (log2 x) ≤ x ∧ x < twoPow (log2 x + 1) := by
  have hnum : x.num.natAbs ≠ 0 := Int.natAbs_ne_zero.2 (Rat.num_pos.2 hx).ne'
  have hden : (0 : Rat) < x.den := by exact_mod_cast x.den_pos
  have hx_mul : x * x.den = x.num.natAbs := by
    rw [Rat.mul_den_eq_num, ← Int.cast_natCast, Int.natAbs_of_nonneg (Rat.num_pos.2 hx).le]
  obtain ⟨hnum_ge, hnum_lt⟩ := twoPow_log2_natCast hnum
  obtain ⟨hden_ge, hden_lt⟩ := twoPow_log2_natCast x.den_pos.ne'
  generalize hk : (Nat.log2 x.num.natAbs : Int) - Nat.log2 x.den = k
  have hsplit : (Nat.log2 x.num.natAbs : Int) = k + Nat.log2 x.den := by omega
  have hupper : x < twoPow (k + 1) := by
    by_contra hge
    have hle : twoPow (k + 1) * twoPow (Nat.log2 x.den) ≤ x * x.den :=
      mul_le_mul (not_lt.1 hge) hden_ge (twoPow_pos _).le hx.le
    rw [← twoPow_add, hx_mul, show k + 1 + (Nat.log2 x.den : Int) = Nat.log2 x.num.natAbs + 1 by omega]
      at hle
    exact absurd hnum_lt (not_lt.2 hle)
  have hlower : twoPow (k - 1) ≤ x := by
    by_contra hlt
    have hless : x * x.den < twoPow (k - 1) * twoPow (Nat.log2 x.den + 1) :=
      mul_lt_mul'' (not_le.1 hlt) hden_lt hx.le hden.le
    rw [← twoPow_add, hx_mul, show k - 1 + ((Nat.log2 x.den : Int) + 1) = Nat.log2 x.num.natAbs by omega]
      at hless
    exact absurd hnum_ge (not_le.2 hless)
  unfold log2
  simp only [hk]
  split
  · exact ⟨‹_›, hupper⟩
  · rename_i hlt
    exact ⟨hlower, by simpa using hlt⟩

/-! ## Rounding to an integer -/

theorem roundEven_intCast (n : Int) : roundEven n = n := by
  simp [roundEven]

theorem floor_le_roundEven (x : Rat) : x.floor ≤ roundEven x := by
  unfold roundEven
  dsimp only
  split_ifs <;> omega

theorem roundEven_le_floor_add_one (x : Rat) : roundEven x ≤ x.floor + 1 := by
  unfold roundEven
  dsimp only
  split_ifs <;> omega

theorem roundEven_mono {x y : Rat} (h : x ≤ y) : roundEven x ≤ roundEven y := by
  rcases (Rat.floor_monotone h).lt_or_eq with hlt | heq
  · have hx := roundEven_le_floor_add_one x
    have hy := floor_le_roundEven y
    omega
  · -- Between the same two integers, the greater number is not rounded down more.
    have hrest : x - x.floor ≤ y - y.floor := by
      rw [heq]
      linarith
    unfold roundEven
    dsimp only
    rw [heq] at hrest ⊢
    split_ifs <;> first | omega | linarith

theorem roundEven_nonneg {x : Rat} (h : 0 ≤ x) : 0 ≤ roundEven x := by
  calc 0 = roundEven ((0 : Int) : Rat) := (roundEven_intCast 0).symm
    _ ≤ roundEven x := roundEven_mono (by simpa using h)

/-! ## Rounding to the format -/

/-- The exponent of the unit in which `x` is rounded. -/
def unitExponent (x : Rat) : Int := max (log2 x - 52) (-1074)

theorem nearestAbs_of_pos {x : Rat} (hx : 0 < x) :
    nearestAbs x = roundEven (x / twoPow (unitExponent x)) * twoPow (unitExponent x) := by
  rw [nearestAbs, if_neg hx.ne']
  rfl

theorem nearestAbs_nonneg {x : Rat} (hx : 0 ≤ x) : 0 ≤ nearestAbs x := by
  rcases hx.eq_or_lt with rfl | hpos
  · simp [nearestAbs]
  · rw [nearestAbs_of_pos hpos]
    have hround : 0 ≤ roundEven (x / twoPow (unitExponent x)) :=
      roundEven_nonneg (div_nonneg hx (twoPow_pos _).le)
    exact mul_nonneg (by exact_mod_cast hround) (twoPow_pos _).le

theorem nearestAbs_le_twoPow {x : Rat} (hx : 0 < x) {k : Int} (hk : unitExponent x ≤ k)
    (hle : x ≤ twoPow k) : nearestAbs x ≤ twoPow k := by
  have hunit := twoPow_pos (unitExponent x)
  have hround : (roundEven (x / twoPow (unitExponent x)) : Rat) ≤
      twoPow k / twoPow (unitExponent x) := by
    have hdiv := div_le_div_of_nonneg_right hle hunit.le
    rw [twoPow_div_twoPow hk] at hdiv ⊢
    exact_mod_cast roundEven_intCast _ ▸ roundEven_mono hdiv
  rw [nearestAbs_of_pos hx]
  exact (le_div_iff₀ hunit).1 hround

theorem twoPow_le_nearestAbs {x : Rat} (hx : 0 < x) {k : Int} (hk : unitExponent x ≤ k)
    (hle : twoPow k ≤ x) : twoPow k ≤ nearestAbs x := by
  have hunit := twoPow_pos (unitExponent x)
  have hround : twoPow k / twoPow (unitExponent x) ≤
      (roundEven (x / twoPow (unitExponent x)) : Rat) := by
    have hdiv := div_le_div_of_nonneg_right hle hunit.le
    rw [twoPow_div_twoPow hk] at hdiv ⊢
    exact_mod_cast roundEven_intCast _ ▸ roundEven_mono hdiv
  rw [nearestAbs_of_pos hx]
  exact (div_le_iff₀ hunit).1 hround

theorem nearestAbs_mono {x y : Rat} (hx : 0 ≤ x) (h : x ≤ y) : nearestAbs x ≤ nearestAbs y := by
  rcases hx.eq_or_lt with rfl | hpos
  · rw [nearestAbs, if_pos rfl]
    exact nearestAbs_nonneg h
  have hy : 0 < y := hpos.trans_le h
  obtain ⟨hxlow, hxhigh⟩ := twoPow_log2_le_lt hpos
  obtain ⟨hylow, hyhigh⟩ := twoPow_log2_le_lt hy
  have hlog : log2 x ≤ log2 y := by
    have hlt := twoPow_lt_twoPow_iff.1 (hxlow.trans_lt (h.trans_lt hyhigh))
    omega
  by_cases hunit : unitExponent x = unitExponent y
  · rw [nearestAbs_of_pos hpos, nearestAbs_of_pos hy, hunit]
    have hround := roundEven_mono
      (div_le_div_of_nonneg_right h (twoPow_pos (unitExponent y)).le)
    exact mul_le_mul_of_nonneg_right (by exact_mod_cast hround) (twoPow_pos _).le
  · -- The power of two at which the binade of `y` begins lies between the two.
    have hexp : log2 x < log2 y ∧ unitExponent x ≤ log2 y ∧ unitExponent y ≤ log2 y := by
      simp only [unitExponent] at hunit ⊢
      omega
    have hbetween : x ≤ twoPow (log2 y) :=
      hxhigh.le.trans (twoPow_le_twoPow_iff.2 (by omega))
    exact (nearestAbs_le_twoPow hpos hexp.2.1 hbetween).trans
      (twoPow_le_nearestAbs hy hexp.2.2 hylow)

theorem nearest_mono {x y : Rat} (h : x ≤ y) : nearest x ≤ nearest y := by
  unfold nearest
  split_ifs with hx hy hy
  · exact neg_le_neg (nearestAbs_mono (by linarith) (by linarith))
  · have hx' := nearestAbs_nonneg (x := -x) (by linarith)
    have hy' := nearestAbs_nonneg (x := y) (by linarith)
    linarith
  · linarith
  · exact nearestAbs_mono (by linarith) h

theorem nearest_nonneg {x : Rat} (hx : 0 ≤ x) : 0 ≤ nearest x := by
  rw [nearest, if_neg (not_lt.2 hx)]
  exact nearestAbs_nonneg hx

theorem nearest_one : nearest 1 = 1 := by decide +kernel

end ScrapeFleet.Binary64
