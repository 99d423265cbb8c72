import Mathlib.Data.Rat.Floor
import TunnelBoard.Proofs.Text.Digits

/-!
# Truncation of decimal numbers

A decimal number denotes a rational number.  Its integer part is what is left of
the rational number without the fraction, and the power of ten of its first digit
bounds its size from both sides.
-/

namespace TunnelBoard

/-!
# Rational numbers
-/

/-- A rational number without its fraction. -/
def truncation (x : ℚ) : ℤ := if 0 ≤ x then ⌊x⌋ else ⌈x⌉

theorem truncation_of_nonneg {x : ℚ} (h : 0 ≤ x) : truncation x = ⌊x⌋ := if_pos h

theorem truncation_neg (x : ℚ) : truncation (-x) = -truncation x := by
  unfold truncation
  rcases lt_trichotomy x 0 with hx | hx | hx
  · rw [if_pos (neg_nonneg.mpr hx.le), if_neg (not_le.mpr hx), Int.floor_neg]
  · subst hx
    rfl
  · rw [if_neg (not_le.mpr (neg_neg_of_pos hx)), if_pos hx.le, Int.ceil_neg]

theorem truncation_intCast (n : ℤ) : truncation n = n := by
  unfold truncation
  split
  · exact Int.floor_intCast n
  · exact Int.ceil_intCast n

namespace Decimal

/-- The number that a sign, a coefficient and a power of ten denote. -/
def rational (negative : Bool) (coefficient : Nat) (exponent : Int) : ℚ :=
  (if negative then -1 else 1) * (coefficient * 10 ^ exponent)

theorem rational_of_int (n : Int) : rational (decide (n < 0)) n.natAbs 0 = n := by
  rw [rational, zpow_zero, mul_one]
  by_cases hn : n < 0
  · have habs : ((n.natAbs : ℤ) : ℚ) = -(n : ℚ) := by
      rw [Int.ofNat_natAbs_of_nonpos hn.le, Int.cast_neg]
    rw [if_pos (decide_eq_true hn), ← Int.cast_natCast, habs, neg_one_mul, neg_neg]
  · have habs : ((n.natAbs : ℤ) : ℚ) = n := by rw [Int.natAbs_of_nonneg (not_lt.mp hn)]
    rw [if_neg (by simpa using hn), one_mul, ← Int.cast_natCast, habs]

/-!
# Size
-/

theorem cast_pow_ten (k : Nat) : ((Nat.pow 10 k : ℕ) : ℚ) = 10 ^ (k : ℤ) := by
  rw [Nat.pow_eq, Nat.cast_pow, zpow_natCast]
  rfl

theorem magnitude_nonneg (c : Nat) (e : Int) : (0 : ℚ) ≤ c * 10 ^ e :=
  mul_nonneg (Nat.cast_nonneg c) (zpow_nonneg (by norm_num) e)

theorem magnitude_lt (c : Nat) (e : Int) : (c : ℚ) * 10 ^ e < 10 ^ (leadingPower c e + 1) := by
  have hc : (c : ℚ) < 10 ^ (digitCount c : ℤ) := by
    rw [← cast_pow_ten]
    exact_mod_cast lt_pow_digitCount c
  have hpower : leadingPower c e + 1 = digitCount c + e := by
    unfold leadingPower
    ring
  rw [hpower, zpow_add₀ (by norm_num)]
  exact mul_lt_mul_of_pos_right hc (zpow_pos (by norm_num) e)

theorem le_magnitude {c : Nat} (hc : 0 < c) (e : Int) :
    (10 : ℚ) ^ leadingPower c e ≤ c * 10 ^ e := by
  have hle : (10 : ℚ) ^ ((digitCount c - 1 : ℕ) : ℤ) ≤ c := by
    rw [← cast_pow_ten]
    exact_mod_cast pow_digitCount_pred_le hc
  have hpower : leadingPower c e = ((digitCount c - 1 : ℕ) : ℤ) + e := by
    have hpos := digitCount_pos c
    unfold leadingPower
    omega
  rw [hpower, zpow_add₀ (by norm_num)]
  exact mul_le_mul_of_nonneg_right hle (zpow_nonneg (by norm_num) e)

/-!
# Integer parts
-/

theorem floor_magnitude (c : Nat) (e : Int) : ⌊(c : ℚ) * 10 ^ e⌋ = integerPart c e := by
  unfold integerPart
  split
  · rename_i he
    have hpower : (10 : ℚ) ^ e = ((Nat.pow 10 e.natAbs : ℕ) : ℚ) := by
      rw [cast_pow_ten, Int.natAbs_of_nonneg he]
    rw [hpower, ← Nat.cast_mul]
    exact Int.floor_natCast _
  · rename_i he
    split
    · rename_i hleading
      rw [Nat.cast_zero, Int.floor_eq_zero_iff]
      refine ⟨magnitude_nonneg c e, lt_of_lt_of_le (magnitude_lt c e) ?_⟩
      exact zpow_le_one_of_nonpos₀ (by norm_num) (by omega)
    · have hpower : (10 : ℚ) ^ e = ((Nat.pow 10 e.natAbs : ℕ) : ℚ)⁻¹ := by
        rw [cast_pow_ten, ← zpow_neg]
        congr 1
        omega
      rw [hpower, ← div_eq_mul_inv, Rat.floor_natCast_div_natCast, Int.natCast_div]

/-- The integer part with its sign is the number without its fraction. -/
theorem truncation_rational (negative : Bool) (c : Nat) (e : Int) :
    truncation (rational negative c e) =
      if negative then -(integerPart c e : ℤ) else integerPart c e := by
  have hpositive : truncation ((c : ℚ) * 10 ^ e) = integerPart c e := by
    rw [truncation_of_nonneg (magnitude_nonneg c e), floor_magnitude]
  unfold rational
  cases negative with
  | false =>
      rw [if_neg Bool.false_ne_true, one_mul, hpositive]
      rfl
  | true =>
      rw [if_pos rfl, neg_one_mul, truncation_neg, hpositive]
      rfl

theorem natAbs_truncation_rational (negative : Bool) (c : Nat) (e : Int) :
    (truncation (rational negative c e)).natAbs = integerPart c e := by
  rw [truncation_rational]
  cases negative with
  | false => rfl
  | true => exact Int.natAbs_neg _

/-- A number whose first digit is at most at a power of ten is below the next power. -/
theorem integerPart_lt {c : Nat} {e : Int} {k : Nat} (h : leadingPower c e ≤ k) :
    integerPart c e < Nat.pow 10 (k + 1) := by
  have hfloor : ⌊(c : ℚ) * 10 ^ e⌋ < ((Nat.pow 10 (k + 1) : ℕ) : ℤ) := by
    rw [Int.floor_lt, Int.cast_natCast, cast_pow_ten]
    apply lt_of_lt_of_le (magnitude_lt c e)
    apply zpow_le_zpow_right₀ (by norm_num)
    push_cast
    omega
  rw [floor_magnitude] at hfloor
  exact_mod_cast hfloor

/-- A number whose first digit is beyond a power of ten is at least the next power, or zero. -/
theorem le_integerPart {c : Nat} {e : Int} {k : Nat} (hc : 0 < c) (h : k < leadingPower c e) :
    Nat.pow 10 (k + 1) ≤ integerPart c e := by
  have hfloor : ((Nat.pow 10 (k + 1) : ℕ) : ℤ) ≤ ⌊(c : ℚ) * 10 ^ e⌋ := by
    rw [Int.le_floor, Int.cast_natCast, cast_pow_ten]
    apply le_trans _ (le_magnitude hc e)
    apply zpow_le_zpow_right₀ (by norm_num)
    push_cast
    omega
  rw [floor_magnitude] at hfloor
  exact_mod_cast hfloor

theorem integerPart_zero (e : Int) : integerPart 0 e = 0 := by
  have hfloor := floor_magnitude 0 e
  rw [Nat.cast_zero, zero_mul, Int.floor_zero] at hfloor
  exact_mod_cast hfloor.symm

end Decimal
end TunnelBoard
