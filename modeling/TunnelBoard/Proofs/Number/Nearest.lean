import Mathlib.Algebra.Order.Field.Power
import TunnelBoard.Proofs.Value.Equality

/-!
# Nearest binary numbers

A quotient is rounded to a whole number of units.  The unit is the least one in
which the quotient has 53 bits, so it grows with the quotient.  It follows that
rounding keeps the order of quotients, and that a quotient with 53 bits is
rounded to itself.
-/

namespace TunnelBoard

/-!
# Rounding of rational numbers
-/

namespace Rounding

/-- The integer nearest to a rational number that is not negative, given a half to the even one. -/
def roundEven (x : ℚ) : Nat := halfEven x.num.natAbs x.den

theorem halfEven_le_of_div_le {n d m e : Nat} (hd : 0 < d) (he : 0 < e)
    (h : (n : ℚ) / d ≤ m / e) : halfEven n d ≤ halfEven m e := by
  rw [div_le_div_iff₀ (Nat.cast_pos.mpr hd) (Nat.cast_pos.mpr he)] at h
  exact halfEven_le_halfEven hd he (by exact_mod_cast h)

theorem natAbs_num_div_den {x : ℚ} (hx : 0 ≤ x) : (x.num.natAbs : ℚ) / x.den = x := by
  have hnum : ((x.num.natAbs : ℤ) : ℚ) = x.num := by
    rw [Int.natAbs_of_nonneg (Rat.num_nonneg.mpr hx)]
  rw [← Int.cast_natCast x.num.natAbs, hnum, Rat.num_div_den]

/-- A quotient is rounded as the rational number that it is. -/
theorem halfEven_eq_roundEven (n : Nat) {d : Nat} (hd : 0 < d) :
    halfEven n d = roundEven (n / d) := by
  have hvalue : (((n : ℚ) / d).num.natAbs : ℚ) / ((n : ℚ) / d).den = n / d :=
    natAbs_num_div_den (by positivity)
  apply le_antisymm
  · exact halfEven_le_of_div_le hd (Rat.den_pos _) hvalue.ge
  · exact halfEven_le_of_div_le (Rat.den_pos _) hd hvalue.le

theorem roundEven_le_roundEven {x y : ℚ} (hx : 0 ≤ x) (h : x ≤ y) :
    roundEven x ≤ roundEven y := by
  apply halfEven_le_of_div_le x.den_pos y.den_pos
  rw [natAbs_num_div_den hx, natAbs_num_div_den (hx.trans h)]
  exact h

theorem roundEven_natCast (n : Nat) : roundEven n = n := by
  have hround := halfEven_eq_roundEven n Nat.one_pos
  rw [Nat.cast_one, div_one, halfEven_eq, Nat.mod_one, Nat.div_one, if_pos Nat.one_pos] at hround
  exact hround.symm

theorem roundEven_le {x : ℚ} {m : Nat} (hx : 0 ≤ x) (h : x ≤ m) : roundEven x ≤ m := by
  rw [← roundEven_natCast m]
  exact roundEven_le_roundEven hx h

theorem le_roundEven {x : ℚ} {m : Nat} (h : (m : ℚ) ≤ x) : m ≤ roundEven x := by
  rw [← roundEven_natCast m]
  exact roundEven_le_roundEven (Nat.cast_nonneg m) h

theorem abs_roundEven_sub_le {x : ℚ} (hx : 0 ≤ x) : |(roundEven x : ℚ) - x| ≤ 1 / 2 := by
  have hpos : (0 : ℚ) < x.den := Nat.cast_pos.mpr x.den_pos
  have hlow : (2 : ℚ) * x.num.natAbs ≤ 2 * (roundEven x * x.den) + x.den := by
    exact_mod_cast two_mul_le_halfEven x.num.natAbs x.den_pos
  have hhigh : (2 : ℚ) * (roundEven x * x.den) ≤ 2 * x.num.natAbs + x.den := by
    exact_mod_cast two_mul_halfEven_le x.num.natAbs x.den
  have hcancel : x * x.den = x.num.natAbs := by
    rw [← eq_div_iff hpos.ne', natAbs_num_div_den hx]
  rw [← hcancel] at hlow hhigh
  rw [abs_le]
  constructor
  · apply le_of_mul_le_mul_right ?_ hpos
    linarith
  · apply le_of_mul_le_mul_right ?_ hpos
    linarith

end Rounding

namespace Binary64

/-!
# Units
-/

theorem pow_two_pos (k : Nat) : 0 < Nat.pow 2 k := Nat.pow_pos Nat.two_pos

/-- A quotient in units. -/
theorem inUnits_spec (n : Nat) {d : Nat} (hd : 0 < d) (e : Int) :
    0 < (inUnits n d e).2 ∧
      ((inUnits n d e).1 : ℚ) / (inUnits n d e).2 = n / d / 2 ^ e := by
  unfold inUnits
  split
  · rename_i h
    refine ⟨Nat.mul_pos hd (pow_two_pos _), ?_⟩
    rw [Nat.cast_mul, cast_pow_two, Int.natAbs_of_nonneg h, div_div]
  · rename_i h
    refine ⟨hd, ?_⟩
    rw [Nat.cast_mul, cast_pow_two, Int.ofNat_natAbs_of_nonpos (by omega), zpow_neg,
      div_eq_mul_inv _ ((2 : ℚ) ^ e), mul_div_right_comm]

theorem ratio_spec (units : Nat) (unit : Int) :
    0 < (ratio units unit).2 ∧
      ((ratio units unit).1 : ℚ) / (ratio units unit).2 = rational false units unit := by
  rw [rational, if_neg Bool.false_ne_true, one_mul]
  unfold ratio
  split
  · rename_i h
    refine ⟨Nat.one_pos, ?_⟩
    rw [Nat.cast_one, div_one, Nat.cast_mul, cast_pow_two, Int.natAbs_of_nonneg h]
  · rename_i h
    refine ⟨pow_two_pos _, ?_⟩
    rw [cast_pow_two, Int.ofNat_natAbs_of_nonpos (by omega), zpow_neg, div_inv_eq_mul]

theorem fits_iff (n : Nat) {d : Nat} (hd : 0 < d) (e : Int) :
    fits n d e = true ↔ (n : ℚ) / d < unitLimit * 2 ^ e := by
  rcases inUnits_spec n hd e with ⟨hpos, hvalue⟩
  have hunit : (0 : ℚ) < 2 ^ e := zpow_pos (by norm_num) e
  rw [← div_lt_iff₀ hunit, ← hvalue, div_lt_iff₀' (Nat.cast_pos.mpr hpos), ← Nat.cast_mul,
    Nat.cast_lt]
  exact decide_eq_true_iff

/-- A number has 53 bits in a unit, or fewer if the unit is the least one. -/
structure IsUnitOf (x : ℚ) (unit : Int) : Prop where
  least : leastUnit ≤ unit
  lt : x < unitLimit * 2 ^ unit
  le : leastUnit < unit → unitLimit * 2 ^ unit ≤ 2 * x

theorem unitLimit_mul_zpow (e : Int) : (unitLimit : ℚ) * 2 ^ e = 2 ^ (e + 53) := by
  rw [zpow_add₀ (by norm_num), mul_comm]
  norm_num [unitLimit]

theorem log2_bounds {n : Nat} (hn : 0 < n) :
    (2 : ℚ) ^ (Nat.log2 n : ℤ) ≤ n ∧ (n : ℚ) < 2 * 2 ^ (Nat.log2 n : ℤ) := by
  rw [← cast_pow_two]
  constructor
  · exact_mod_cast Nat.log2_self_le hn.ne'
  · have hless : n < 2 * Nat.pow 2 (Nat.log2 n) := by
      rw [Nat.mul_comm]
      exact Nat.lt_log2_self
    exact_mod_cast hless

theorem quotient_bounds {n d : Nat} (hn : 0 < n) (hd : 0 < d) :
    (2 : ℚ) ^ ((Nat.log2 n : ℤ) - Nat.log2 d) ≤ 2 * (n / d) ∧
      (n : ℚ) / d < 2 * 2 ^ ((Nat.log2 n : ℤ) - Nat.log2 d) := by
  have hdpos : (0 : ℚ) < d := Nat.cast_pos.mpr hd
  have hqpos : (0 : ℚ) < 2 ^ (Nat.log2 d : ℤ) := zpow_pos (by norm_num) _
  rcases log2_bounds hn with ⟨hnlow, hnhigh⟩
  rcases log2_bounds hd with ⟨hdlow, hdhigh⟩
  rw [zpow_sub₀ (by norm_num), ← mul_div_assoc, ← mul_div_assoc]
  constructor
  · rw [div_le_div_iff₀ hqpos hdpos]
    calc (2 : ℚ) ^ (Nat.log2 n : ℤ) * d
        ≤ n * (2 * 2 ^ (Nat.log2 d : ℤ)) := by gcongr
      _ = 2 * n * 2 ^ (Nat.log2 d : ℤ) := by ring
  · rw [div_lt_div_iff₀ hdpos hqpos]
    calc (n : ℚ) * 2 ^ (Nat.log2 d : ℤ)
        ≤ n * d := by gcongr
      _ < 2 * 2 ^ (Nat.log2 n : ℤ) * d := by gcongr

/-- The first of two neighbouring powers of two is tried, and the second taken if it fails. -/
theorem isUnitOf_unitOf {n d : Nat} (hn : 0 < n) (hd : 0 < d) :
    IsUnitOf ((n : ℚ) / d) (unitOf n d) := by
  rcases quotient_bounds hn hd with ⟨hlow, hhigh⟩
  unfold unitOf
  generalize (Nat.log2 n : ℤ) - Nat.log2 d = k at hlow hhigh
  dsimp only
  split
  · rename_i hfits
    refine ⟨le_max_left _ _, (fits_iff n hd _).mp hfits, ?_⟩
    intro hleast
    have hmax : leastUnit ≤ k - 53 := (lt_max_iff.mp hleast).resolve_left (lt_irrefl _) |>.le
    rw [max_eq_right hmax, unitLimit_mul_zpow, sub_add_cancel]
    exact hlow
  · rename_i hfits
    rw [fits_iff n hd, not_lt] at hfits
    refine ⟨(le_max_left _ _).trans (Int.le_add_one le_rfl), ?_, ?_⟩
    · rw [unitLimit_mul_zpow]
      apply lt_of_lt_of_le hhigh
      rw [← zpow_one_add₀ (by norm_num)]
      exact zpow_le_zpow_right₀ (by norm_num) (by omega)
    · intro _
      rw [zpow_add_one₀ (by norm_num)]
      linarith

/-- Greater numbers have no smaller units. -/
theorem IsUnitOf.mono {x y : ℚ} {unit other : Int} (hx : IsUnitOf x unit) (hy : IsUnitOf y other)
    (h : x ≤ y) : unit ≤ other := by
  apply le_of_not_gt
  intro hless
  have hstep : (2 : ℚ) ^ (1 + other) ≤ 2 ^ unit := zpow_le_zpow_right₀ (by norm_num) (by omega)
  rw [zpow_one_add₀ (by norm_num)] at hstep
  have hhalf := hx.le (lt_of_le_of_lt hy.least hless)
  have hlimit : (unitLimit : ℚ) * (2 * 2 ^ other) ≤ unitLimit * 2 ^ unit := by gcongr
  linarith [hy.lt]

/-!
# Rounding to units
-/

/-- The number that a quotient is rounded to, whatever its size. -/
def nearest (n d : Nat) : ℚ :=
  Rounding.roundEven (n / d / 2 ^ unitOf n d) * 2 ^ unitOf n d

theorem nearest_zero (d : Nat) : nearest 0 d = 0 := by
  have hround : Rounding.roundEven 0 = 0 := by exact_mod_cast Rounding.roundEven_natCast 0
  rw [nearest, Nat.cast_zero, zero_div, zero_div, hround, Nat.cast_zero, zero_mul]

theorem nearest_nonneg (n d : Nat) : 0 ≤ nearest n d :=
  mul_nonneg (Nat.cast_nonneg _) (zpow_nonneg (by norm_num) _)

theorem rational_bounded {negative s : Bool} {m units : Nat} {e unit : Int}
    (h : bounded negative m e = .finite s units unit) :
    rational s units unit = rational negative m e := by
  unfold bounded at h
  split at h
  · cases h
  · cases h
    rfl

theorem rational_ofUnits {negative s : Bool} {m units : Nat} {e unit : Int}
    (h : ofUnits negative m e = .finite s units unit) :
    rational s units unit = rational negative m e := by
  unfold ofUnits at h
  split at h
  · rename_i hlimit
    have hhalf : ((unitLimit / 2 : ℕ) : ℚ) * 2 = unitLimit := by norm_num [unitLimit]
    rw [rational_bounded h, rational, rational, zpow_add_one₀ (by norm_num), hlimit, ← hhalf]
    ring
  · exact rational_bounded h

theorem rational_ofRatio {s : Bool} {n d units : Nat} {unit : Int} (hd : 0 < d)
    (h : ofRatio false n d = .finite s units unit) : rational s units unit = nearest n d := by
  unfold ofRatio at h
  split at h
  · rename_i hzero
    cases h
    rw [hzero, nearest_zero, rational, Nat.cast_zero, zero_mul, mul_zero]
  · rcases inUnits_spec n hd (unitOf n d) with ⟨hpos, hvalue⟩
    rw [rational_ofUnits h, rational, if_neg Bool.false_ne_true, one_mul, nearest,
      Rounding.halfEven_eq_roundEven _ hpos, hvalue]

/-- A quotient is rounded up to the next unit, at most. -/
theorem nearest_le_limit {n d : Nat} (hn : 0 < n) (hd : 0 < d) :
    nearest n d ≤ unitLimit * 2 ^ unitOf n d := by
  have hunit := isUnitOf_unitOf hn hd
  have hunits : Rounding.roundEven (n / d / 2 ^ unitOf n d) ≤ unitLimit := by
    apply Rounding.roundEven_le (by positivity)
    rw [div_le_iff₀ (zpow_pos (by norm_num) _)]
    exact hunit.lt.le
  rw [nearest]
  gcongr

theorem limit_le_nearest {n d : Nat} (hn : 0 < n) (hd : 0 < d) (h : leastUnit < unitOf n d) :
    unitLimit * 2 ^ unitOf n d ≤ 2 * nearest n d := by
  have hunit := isUnitOf_unitOf hn hd
  have hhalf : (unitLimit : ℚ) = 2 * (unitLimit / 2 : ℕ) := by norm_num [unitLimit]
  have hunits : unitLimit / 2 ≤ Rounding.roundEven (n / d / 2 ^ unitOf n d) := by
    apply Rounding.le_roundEven
    rw [le_div_iff₀ (zpow_pos (by norm_num) _)]
    have hbits := hunit.le h
    rw [hhalf, mul_assoc] at hbits
    exact le_of_mul_le_mul_left hbits (by norm_num)
  rw [nearest, hhalf, mul_assoc]
  gcongr

/-- Rounding keeps the order: in one unit by the rule for halves, else by the units alone. -/
theorem nearest_le_nearest {n d m e : Nat} (hd : 0 < d) (he : 0 < e)
    (h : (n : ℚ) / d ≤ m / e) : nearest n d ≤ nearest m e := by
  rcases Nat.eq_zero_or_pos n with hn | hn
  · rw [hn, nearest_zero]
    exact nearest_nonneg m e
  have hquotient : (0 : ℚ) < n / d := div_pos (Nat.cast_pos.mpr hn) (Nat.cast_pos.mpr hd)
  have hm : 0 < m := by
    apply Nat.pos_of_ne_zero
    intro hzero
    rw [hzero, Nat.cast_zero, zero_div] at h
    exact absurd hquotient (not_lt.mpr h)
  have hfirst := isUnitOf_unitOf hn hd
  have hsecond := isUnitOf_unitOf hm he
  rcases (hfirst.mono hsecond h).eq_or_lt with heq | hless
  · have hunits : Rounding.roundEven (n / d / 2 ^ unitOf m e) ≤
        Rounding.roundEven (m / e / 2 ^ unitOf m e) :=
      Rounding.roundEven_le_roundEven (by positivity) (by gcongr)
    rw [nearest, nearest, heq]
    gcongr
  · have hstep : (2 : ℚ) ^ (1 + unitOf n d) ≤ 2 ^ unitOf m e :=
      zpow_le_zpow_right₀ (by norm_num) (by omega)
    rw [zpow_one_add₀ (by norm_num)] at hstep
    have hlimit : (unitLimit : ℚ) * (2 * 2 ^ unitOf n d) ≤ unitLimit * 2 ^ unitOf m e := by gcongr
    linarith [nearest_le_limit hn hd, limit_le_nearest hm he (lt_of_le_of_lt hfirst.least hless)]

/-- A quotient that is a whole number of units, and not too many of them, is not rounded. -/
theorem nearest_eq {n d z : Nat} {e : Int} (hd : 0 < d) (hz : z < unitLimit)
    (he : leastUnit ≤ e) (h : (n : ℚ) / d = z * 2 ^ e) : nearest n d = n / d := by
  rcases Nat.eq_zero_or_pos n with hn | hn
  · rw [hn, nearest_zero, Nat.cast_zero, zero_div]
  have hunit := isUnitOf_unitOf hn hd
  rw [nearest]
  generalize unitOf n d = unit at hunit ⊢
  have hle : unit ≤ e := by
    rcases hunit.least.eq_or_lt with heq | hless
    · rw [← heq]
      exact he
    · have hlimit : (unitLimit : ℚ) * 2 ^ unit < unitLimit * 2 ^ (e + 1) :=
        calc (unitLimit : ℚ) * 2 ^ unit
            ≤ 2 * (n / d) := hunit.le hless
          _ = z * 2 ^ (e + 1) := by
              rw [h, zpow_add_one₀ (by norm_num)]
              ring
          _ < unitLimit * 2 ^ (e + 1) := by gcongr
      have hpower := lt_of_mul_lt_mul_left hlimit (Nat.cast_nonneg unitLimit)
      exact Int.lt_add_one_iff.mp ((zpow_lt_zpow_iff_right₀ (by norm_num)).mp hpower)
  rcases Int.le.dest hle with ⟨k, hk⟩
  have hexact : (n : ℚ) / d = (z * Nat.pow 2 k : ℕ) * 2 ^ unit := by
    rw [h, ← hk, zpow_add₀ (by norm_num), Nat.cast_mul, cast_pow_two]
    ring
  rw [hexact, mul_div_cancel_right₀ _ (zpow_ne_zero unit (by norm_num)),
    Rounding.roundEven_natCast]

end Binary64
end TunnelBoard
