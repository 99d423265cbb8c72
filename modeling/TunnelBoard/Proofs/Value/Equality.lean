import TunnelBoard.Value.Basic
import TunnelBoard.Proofs.Number.Truncation

/-!
# Equal numbers

Values of different kinds are equal if they are the same rational number.  They are
compared by the unique forms of decimal fractions, so the forms of two numbers are
equal if and only if the numbers are.
-/

namespace TunnelBoard
namespace Decimal

/-!
# Unique forms
-/

theorem stripZeros_magnitude (fuel n : Nat) (e : Int) :
    ((stripZeros fuel n e).1 : ℚ) * 10 ^ (stripZeros fuel n e).2 = n * 10 ^ e := by
  induction fuel generalizing n e with
  | zero => rfl
  | succ fuel ih =>
      rw [stripZeros]
      split
      · rename_i hzero
        have hn : (n : ℚ) = (n / 10 : ℕ) * 10 := by
          exact_mod_cast (Nat.div_mul_cancel (Nat.dvd_of_mod_eq_zero hzero)).symm
        rw [ih, hn, zpow_add_one₀ (by norm_num)]
        ring
      · rfl

theorem stripZeros_mod_ten {fuel n : Nat} (hn : 0 < n) (hfuel : n < Nat.pow 10 fuel) (e : Int) :
    (stripZeros fuel n e).1 % 10 ≠ 0 := by
  induction fuel generalizing n e with
  | zero =>
      have hone : n < 1 := hfuel
      omega
  | succ fuel ih =>
      rw [stripZeros]
      split
      · have hpow : Nat.pow 10 (fuel + 1) = Nat.pow 10 fuel * 10 := rfl
        exact ih (by omega) (by omega) (e + 1)
      · assumption

theorem le_of_magnitude_eq {m n : Nat} {e f : Int} (hm : m % 10 ≠ 0)
    (h : (m : ℚ) * 10 ^ e = n * 10 ^ f) : f ≤ e := by
  apply le_of_not_gt
  intro hless
  obtain ⟨k, hk⟩ : ∃ k : ℕ, f = e + (k + 1) := ⟨(f - e - 1).toNat, by omega⟩
  have hpow : (10 : ℚ) ^ f = 10 ^ e * (10 ^ k * 10) := by
    rw [hk, zpow_add₀ (by norm_num), zpow_add_one₀ (by norm_num), zpow_natCast]
  have hfactor : (m : ℚ) = n * 10 ^ k * 10 := by
    apply mul_right_cancel₀ (zpow_ne_zero e (by norm_num : (10 : ℚ) ≠ 0))
    rw [h, hpow]
    ring
  have hten : m = n * 10 ^ k * 10 := by exact_mod_cast hfactor
  omega

/-- A coefficient that ten does not divide and its power of ten are decided by the number. -/
theorem eq_of_magnitude_eq {m n : Nat} {e f : Int} (hm : m % 10 ≠ 0) (hn : n % 10 ≠ 0)
    (h : (m : ℚ) * 10 ^ e = n * 10 ^ f) : m = n ∧ e = f := by
  have hpower : e = f := le_antisymm (le_of_magnitude_eq hn h.symm) (le_of_magnitude_eq hm h)
  subst hpower
  have hcast : (m : ℚ) = n := mul_right_cancel₀ (zpow_ne_zero e (by norm_num)) h
  exact ⟨by exact_mod_cast hcast, rfl⟩

theorem canonical_zero (negative : Bool) (e : Int) : canonical negative 0 e = (false, 0, 0) :=
  if_pos rfl

theorem canonical_of_pos (negative : Bool) {c : Nat} (hc : 0 < c) (e : Int) :
    canonical negative c e = (negative, stripZeros (digitCount c) c e) :=
  if_neg hc.ne'

theorem rational_zero (negative : Bool) (e : Int) : rational negative 0 e = 0 := by
  rw [rational, Nat.cast_zero, zero_mul, mul_zero]

theorem rational_canonical (negative : Bool) (c : Nat) (e : Int) :
    rational (canonical negative c e).1 (canonical negative c e).2.1
      (canonical negative c e).2.2 = rational negative c e := by
  rcases Nat.eq_zero_or_pos c with hc | hc
  · rw [hc, canonical_zero, rational_zero, rational_zero]
  · rw [canonical_of_pos negative hc, rational, stripZeros_magnitude, ← rational]

theorem magnitude_pos {c : Nat} (hc : 0 < c) (e : Int) : (0 : ℚ) < c * 10 ^ e :=
  mul_pos (Nat.cast_pos.mpr hc) (zpow_pos (by norm_num) e)

/-- Numbers that are not zero and equal have the same sign and the same magnitude. -/
theorem magnitude_eq_of_rational_eq {s t : Bool} {c d : Nat} {e f : Int} (hc : 0 < c)
    (hd : 0 < d) (h : rational s c e = rational t d f) :
    s = t ∧ (c : ℚ) * 10 ^ e = d * 10 ^ f := by
  have hleft := magnitude_pos hc e
  have hright := magnitude_pos hd f
  cases s <;> cases t <;> simp [rational] at h ⊢ <;> linarith

theorem rational_eq_zero_iff {negative : Bool} {c : Nat} {e : Int} :
    rational negative c e = 0 ↔ c = 0 := by
  constructor
  · intro h
    have hmagnitude : (c : ℚ) * 10 ^ e = 0 := by
      cases negative <;> simpa [rational] using h
    by_contra hc
    exact (magnitude_pos (Nat.pos_of_ne_zero hc) e).ne' hmagnitude
  · intro h
    rw [h, rational_zero]

theorem canonical_eq_iff (s t : Bool) (c d : Nat) (e f : Int) :
    canonical s c e = canonical t d f ↔ rational s c e = rational t d f := by
  constructor
  · intro h
    rw [← rational_canonical s, ← rational_canonical t, h]
  · intro h
    rcases Nat.eq_zero_or_pos c with hc | hc
    · have hd : d = 0 := rational_eq_zero_iff.mp (h.symm.trans (rational_eq_zero_iff.mpr hc))
      rw [hc, hd, canonical_zero, canonical_zero]
    · have hd : 0 < d := by
        apply Nat.pos_of_ne_zero
        intro hzero
        exact hc.ne' (rational_eq_zero_iff.mp (h.trans (rational_eq_zero_iff.mpr hzero)))
      rcases magnitude_eq_of_rational_eq hc hd h with ⟨hsign, hmagnitude⟩
      rw [← stripZeros_magnitude (digitCount c) c, ← stripZeros_magnitude (digitCount d) d]
        at hmagnitude
      rcases eq_of_magnitude_eq (stripZeros_mod_ten hc (lt_pow_digitCount c) e)
        (stripZeros_mod_ten hd (lt_pow_digitCount d) f) hmagnitude with ⟨hcoefficient, hpower⟩
      rw [canonical_of_pos s hc, canonical_of_pos t hd, hsign, Prod.ext hcoefficient hpower]

end Decimal

/-!
# Binary numbers

A power of two is a power of ten over or times a power of five, so a binary
number is a decimal fraction.
-/

namespace Binary64

/-- The number that a sign and a number of units denote. -/
def rational (negative : Bool) (units : Nat) (unit : Int) : ℚ :=
  (if negative then -1 else 1) * (units * 2 ^ unit)

theorem cast_pow_two (k : Nat) : ((Nat.pow 2 k : ℕ) : ℚ) = 2 ^ (k : ℤ) := by
  rw [Nat.pow_eq, Nat.cast_pow, zpow_natCast]
  rfl

theorem rational_of_nonneg (negative : Bool) (units : Nat) {unit : Int} (h : 0 ≤ unit) :
    Decimal.rational negative (units * Nat.pow 2 unit.natAbs) 0 = rational negative units unit := by
  have hpower : ((Nat.pow 2 unit.natAbs : ℕ) : ℚ) = 2 ^ unit := by
    rw [cast_pow_two, Int.natAbs_of_nonneg h]
  rw [Decimal.rational, rational, Nat.cast_mul, hpower, zpow_zero, mul_one]

theorem rational_of_neg (negative : Bool) (units : Nat) {unit : Int} (h : ¬ 0 ≤ unit) :
    Decimal.rational negative (units * Nat.pow 5 unit.natAbs) unit =
      rational negative units unit := by
  have hfive : ((Nat.pow 5 unit.natAbs : ℕ) : ℚ) = 5 ^ (-unit) := by
    rw [Nat.pow_eq, Nat.cast_pow, ← zpow_natCast, Int.ofNat_natAbs_of_nonpos (by omega)]
    rfl
  have hten : (10 : ℚ) ^ unit = 5 ^ unit * 2 ^ unit := by
    rw [← mul_zpow]
    norm_num
  have hpower : ((Nat.pow 5 unit.natAbs : ℕ) : ℚ) * 10 ^ unit = 2 ^ unit := by
    rw [hfive, hten, ← mul_assoc, ← zpow_add₀ (by norm_num), neg_add_cancel, zpow_zero, one_mul]
  rw [Decimal.rational, rational, Nat.cast_mul, mul_assoc (units : ℚ), hpower]

end Binary64

/-!
# Values
-/

namespace Value

/-- The number that a value is equal to, if there is one. -/
def rational? : Value → Option ℚ
  | .bool b => some (if b then 1 else 0)
  | .int n => some n
  | .float (.finite negative units unit) => some (Binary64.rational negative units unit)
  | .decimal (.finite negative coefficient exponent) =>
      some (Decimal.rational negative coefficient exponent)
  | _ => none

/-- Whether a value must not be compared. -/
def isSignaling : Value → Bool
  | .decimal (.nan _ signaling _) => signaling
  | _ => false

theorem equals_ofInt (negative : Bool) (c : Nat) (e n : Int) :
    (Amount.exact (Decimal.canonical negative c e)).equals (.ofInt n) =
      decide (Decimal.rational negative c e = n) := by
  rw [← Decimal.rational_of_int n]
  exact decide_eq_decide.mpr (Decimal.canonical_eq_iff _ _ _ _ _ _)

/-- The decimal fraction that a number is taken for is equal to it. -/
theorem amount?_of_rational? {v : Value} {x : ℚ} (h : v.rational? = some x) :
    ∃ negative c e, v.amount? = some (.exact (Decimal.canonical negative c e)) ∧
      Decimal.rational negative c e = x := by
  cases v with
  | bool b =>
      cases h
      refine ⟨_, _, _, rfl, ?_⟩
      rw [Decimal.rational_of_int]
      cases b <;> rfl
  | int n =>
      cases h
      exact ⟨_, _, _, rfl, Decimal.rational_of_int n⟩
  | float y =>
      cases y with
      | finite negative units unit =>
          cases h
          by_cases hunit : 0 ≤ unit
          · exact ⟨_, _, _, if_pos hunit, Binary64.rational_of_nonneg negative units hunit⟩
          · exact ⟨_, _, _, if_neg hunit, Binary64.rational_of_neg negative units hunit⟩
      | infinite negative => cases h
      | nan => cases h
  | decimal d =>
      cases d with
      | finite negative coefficient exponent =>
          cases h
          exact ⟨_, _, _, rfl, rfl⟩
      | infinite negative => cases h
      | nan negative signaling payload => cases h
  | null => cases h
  | text t => cases h
  | bytes b => cases h
  | list items => cases h
  | map entries => cases h

end Value

end TunnelBoard
