import TunnelBoard.Proofs.Chart.Sizes
import TunnelBoard.Proofs.Number.Nearest
import TunnelBoard.Proofs.Number.Printing

/-!
# The order of sizes

The text of a size denotes a number of bytes: the number that is printed, times
the unit.  A greater number of bytes never has a lesser size.  Below the powers of
1024 a size may be rounded up to the next unit, but not above it.

The quotient by the unit is rounded twice, to 53 bits and to tenths.  A number of
bytes that has 53 bits is only rounded to tenths.
-/

namespace TunnelBoard
namespace Size

/-!
# Reading sizes
-/

/-- The names of the units, each with its power of 1024. -/
def unitRanks : List (Text × Nat) :=
  [("byte", 0), ("bytes", 0), ("KB", 1), ("MB", 2), ("GB", 3), ("TB", 4), ("PB", 5)]

/-- The number that is printed in the text of a size, and the power of 1024 that is its unit. -/
def printed? (t : Text) : Option (ℚ × Nat) := do
  let (number, unit) ← t.cut? ' '
  let x ← (Value.decimal (← Decimal.ofText? number)).rational?
  let rank ← unitRanks.lookup unit
  pure (x, rank)

/-- An integer is written as a number in a unit. -/
def IsPrintedAs (n : Int) (x : ℚ) (rank : Nat) : Prop :=
  ∃ t, ofValue .plain (.int n) = .ok t ∧ printed? t = some (x, rank)

theorem printed?_eq_some {number unit : Text} {x : ℚ} {rank : Nat}
    (hnumber : Decimal.Literal number x) (hunit : unitRanks.lookup unit = some rank) :
    printed? (number ++ " " ++ unit) = some (x, rank) := by
  have hspace : (' ' : CodePoint) ∉ number := by
    intro hmem
    exact absurd (Decimal.isLiteralPoint_of_literal hnumber _ hmem) (by decide)
  rcases (Text.denotes_iff number x).mp (Decimal.denotes_of_literal hnumber) with
    ⟨negative, c, e, hread, hx⟩
  have hcut : Text.cut? ' ' (number ++ " " ++ unit) = some (number, unit) := by
    rw [List.append_assoc]
    exact Text.cut?_append hspace unit
  rw [printed?, hcut, hx]
  simp [hread, hunit, Value.rational?]

/-!
# Units

A number reaches its unit, unless that is the byte, and does not reach the next one.
-/

theorem bytesIn_pos (rank : Nat) : 0 < bytesIn rank := Nat.pow_pos (by decide)

theorem bytesIn_zero : bytesIn 0 = 1 := rfl

theorem bytesIn_succ (rank : Nat) : bytesIn (rank + 1) = 1024 * bytesIn rank := Nat.pow_succ'

theorem bytesIn_le_bytesIn {rank other : Nat} (h : rank ≤ other) : bytesIn rank ≤ bytesIn other :=
  Nat.pow_le_pow_right (by decide) h

structure IsScaleOf (n rank : Nat) : Prop where
  le_five : rank ≤ 5
  le : 0 < rank → bytesIn rank ≤ n
  lt : rank < 5 → n < bytesIn (rank + 1)

theorem isScaleOf_scale (n : Nat) : IsScaleOf n (scale n) := by
  unfold scale
  split
  · exact ⟨by decide, nofun, fun _ => by assumption⟩
  split
  · exact ⟨by decide, fun _ => not_lt.mp (by assumption), fun _ => by assumption⟩
  split
  · exact ⟨by decide, fun _ => not_lt.mp (by assumption), fun _ => by assumption⟩
  split
  · exact ⟨by decide, fun _ => not_lt.mp (by assumption), fun _ => by assumption⟩
  split
  · exact ⟨by decide, fun _ => not_lt.mp (by assumption), fun _ => by assumption⟩
  · exact ⟨by decide, fun _ => not_lt.mp (by assumption), fun h => absurd h (lt_irrefl 5)⟩

theorem IsScaleOf.mono {n m rank other : Nat} (hn : IsScaleOf n rank) (hm : IsScaleOf m other)
    (h : n ≤ m) : rank ≤ other := by
  apply le_of_not_gt
  intro hless
  have hlow := hn.le (Nat.zero_lt_of_lt hless)
  have hhigh := hm.lt (lt_of_lt_of_le hless hn.le_five)
  exact absurd (bytesIn_le_bytesIn hless) (not_le.mpr (lt_of_le_of_lt (hlow.trans h) hhigh))

/-!
# Tenths
-/

/-- The tenths of a number of bytes in a unit. -/
def tenths (n rank : Nat) : Nat := Rounding.roundEven (10 * Binary64.nearest n (bytesIn rank))

theorem tenths_le_tenths {n m : Nat} (h : n ≤ m) (rank : Nat) : tenths n rank ≤ tenths m rank := by
  have hnearest := Binary64.nearest_le_nearest (bytesIn_pos rank) (bytesIn_pos rank)
    (show (n : ℚ) / bytesIn rank ≤ m / bytesIn rank by gcongr)
  apply Rounding.roundEven_le_roundEven
  · exact mul_nonneg (by norm_num) (Binary64.nearest_nonneg _ _)
  · gcongr

/-- A multiple of the unit is not rounded. -/
theorem tenths_mul {c : Nat} (hc : c < Binary64.unitLimit) (rank : Nat) :
    tenths (c * bytesIn rank) rank = 10 * c := by
  have hpos : (bytesIn rank : ℚ) ≠ 0 := Nat.cast_ne_zero.mpr (bytesIn_pos rank).ne'
  have hquotient : ((c * bytesIn rank : ℕ) : ℚ) / bytesIn rank = c := by
    rw [Nat.cast_mul, mul_div_cancel_right₀ _ hpos]
  have hnearest : Binary64.nearest (c * bytesIn rank) (bytesIn rank) = c := by
    rw [Binary64.nearest_eq (bytesIn_pos rank) hc (show Binary64.leastUnit ≤ 0 by decide)
      (by rw [hquotient, zpow_zero, mul_one]), hquotient]
  rw [tenths, hnearest]
  exact_mod_cast Rounding.roundEven_natCast (10 * c)

theorem tenths_le {n c rank : Nat} (hc : c < Binary64.unitLimit) (h : n ≤ c * bytesIn rank) :
    tenths n rank ≤ 10 * c := by
  rw [← tenths_mul hc rank]
  exact tenths_le_tenths h rank

theorem ten_le_tenths {n rank : Nat} (h : bytesIn rank ≤ n) : 10 ≤ tenths n rank := by
  rw [← Nat.mul_one 10, ← tenths_mul (by decide : 1 < Binary64.unitLimit) rank, Nat.one_mul]
  exact tenths_le_tenths h rank

theorem abs_tenths_sub_le {n rank : Nat} (hn : n < Binary64.unitLimit) (hrank : rank ≤ 5) :
    |(tenths n rank : ℚ) / 10 - n / bytesIn rank| ≤ 1 / 20 := by
  have hpower : (n : ℚ) / bytesIn rank = n * 2 ^ (-(10 * rank) : ℤ) := by
    have hunit : (bytesIn rank : ℚ) = 2 ^ ((10 * rank : ℕ) : ℤ) := by
      rw [zpow_natCast, pow_mul, bytesIn, Nat.pow_eq]
      norm_num
    rw [hunit, zpow_neg, ← div_eq_mul_inv, Nat.cast_mul]
    rfl
  have hleast : Binary64.leastUnit ≤ -(10 * rank) := by
    unfold Binary64.leastUnit
    omega
  have hround := Rounding.abs_roundEven_sub_le
    (mul_nonneg (by norm_num : (0 : ℚ) ≤ 10) (Binary64.nearest_nonneg n (bytesIn rank)))
  rw [← tenths, Binary64.nearest_eq (bytesIn_pos rank) hn hleast hpower] at hround
  rw [abs_le] at hround ⊢
  constructor <;> linarith

/-!
# Sizes as numbers
-/

/-- The number that is printed for a number of bytes. -/
def number (n : Nat) : ℚ := if scale n = 0 then n else tenths n (scale n) / 10

/-- The number of bytes that the size of a number of bytes denotes. -/
def denoted (n : Nat) : ℚ := number n * bytesIn (scale n)

theorem number_nonneg (n : Nat) : 0 ≤ number n := by
  unfold number
  split <;> positivity

theorem cast_bytesIn (rank : Nat) : (bytesIn rank : ℚ) = 1024 ^ rank := by
  rw [bytesIn, Nat.pow_eq, Nat.cast_pow]
  rfl

theorem denoted_of_scale_zero {n : Nat} (h : scale n = 0) : denoted n = n := by
  rw [denoted, number, if_pos h, h, bytesIn_zero, Nat.cast_one, mul_one]

/-- A size is rounded up to the next unit, at most. -/
theorem denoted_le {n : Nat} (h : scale n < 5) : denoted n ≤ bytesIn (scale n + 1) := by
  have hlt := (isScaleOf_scale n).lt h
  by_cases hzero : scale n = 0
  · rw [denoted_of_scale_zero hzero]
    exact_mod_cast hlt.le
  · have htenths : tenths n (scale n) ≤ 10 * 1024 :=
      tenths_le (by decide) (by rw [← bytesIn_succ]; exact hlt.le)
    have hnumber : (tenths n (scale n) : ℚ) / 10 ≤ 1024 := by
      rw [div_le_iff₀ (by norm_num)]
      exact_mod_cast htenths
    rw [denoted, number, if_neg hzero, bytesIn_succ, Nat.cast_mul]
    gcongr
    exact_mod_cast hnumber

theorem le_denoted {n : Nat} (h : 0 < scale n) : (bytesIn (scale n) : ℚ) ≤ denoted n := by
  have htenths := ten_le_tenths ((isScaleOf_scale n).le h)
  have hnumber : (1 : ℚ) ≤ tenths n (scale n) / 10 := by
    rw [le_div_iff₀ (by norm_num), one_mul]
    exact_mod_cast htenths
  rw [denoted, number, if_neg h.ne']
  exact le_mul_of_one_le_left (Nat.cast_nonneg _) hnumber

theorem denoted_le_denoted {n m : Nat} (h : n ≤ m) : denoted n ≤ denoted m := by
  rcases ((isScaleOf_scale n).mono (isScaleOf_scale m) h).eq_or_lt with heq | hless
  · rw [denoted, denoted, number, number, heq]
    split
    · gcongr
    · have htenths := tenths_le_tenths h (scale m)
      gcongr
  · have hscale := lt_of_lt_of_le hless (isScaleOf_scale m).le_five
    calc denoted n
        ≤ bytesIn (scale n + 1) := denoted_le hscale
      _ ≤ bytesIn (scale m) := by exact_mod_cast bytesIn_le_bytesIn hless
      _ ≤ denoted m := le_denoted (Nat.zero_lt_of_lt hless)

/-- With 53 bits, a number of bytes is at most a twentieth of the unit away from its size. -/
theorem abs_denoted_sub_le {n : Nat} (h : n < Binary64.unitLimit) :
    |denoted n - n| ≤ bytesIn (scale n) / 20 := by
  by_cases hzero : scale n = 0
  · rw [denoted_of_scale_zero hzero, sub_self, abs_zero]
    positivity
  · have hpos : (0 : ℚ) < bytesIn (scale n) := Nat.cast_pos.mpr (bytesIn_pos _)
    have htenths := abs_tenths_sub_le h (isScaleOf_scale n).le_five
    have hfactor : denoted n - n =
        (tenths n (scale n) / 10 - n / bytesIn (scale n)) * bytesIn (scale n) := by
      rw [denoted, number, if_neg hzero, sub_mul, div_mul_cancel₀ _ hpos.ne']
    rw [hfactor, abs_mul, abs_of_pos hpos]
    calc |(tenths n (scale n) : ℚ) / 10 - n / bytesIn (scale n)| * bytesIn (scale n)
        ≤ 1 / 20 * bytesIn (scale n) := by gcongr
      _ = bytesIn (scale n) / 20 := by ring

/-!
# Texts of sizes
-/

theorem literal_ofNat {sign : Text} {negative : Bool} (h : Decimal.Sign sign negative) (n : Nat) :
    Decimal.Literal (sign ++ Text.ofNat n) ((if negative then -1 else 1) * n) := by
  have hliteral := Decimal.Literal.mk h (Decimal.isDigits_ofNat n) .none
    (.inl (Decimal.ofNat_ne_nil n)) .none
  have hnil : Decimal.valueOf [] = 0 := rfl
  rw [Decimal.valueOf_ofNat, hnil, Nat.cast_zero, zero_div, add_zero, zpow_zero, mul_one,
    List.append_nil, List.append_nil] at hliteral
  exact hliteral

theorem literal_tenthsText {sign : Text} {negative : Bool} (h : Decimal.Sign sign negative)
    (tenths : Nat) :
    Decimal.Literal (sign ++ tenthsText tenths)
      ((if negative then -1 else 1) * (tenths / 10)) := by
  have hliteral := Decimal.Literal.mk h (Decimal.isDigits_ofNat (tenths / 10))
    (.point (Decimal.isDigits_ofNat (tenths % 10))) (.inl (Decimal.ofNat_ne_nil _)) .none
  have hcount : Decimal.digitCount (tenths % 10) = 1 :=
    le_antisymm ((Decimal.digitCount_le_iff Nat.one_pos).mpr (Nat.mod_lt tenths (by decide)))
      (Decimal.digitCount_pos _)
  have htenths : (tenths : ℚ) = 10 * (tenths / 10 : ℕ) + (tenths % 10 : ℕ) := by
    exact_mod_cast (Nat.div_add_mod tenths 10).symm
  have hvalue : ((tenths / 10 : ℕ) + (tenths % 10 : ℕ) / 10 ^ 1 : ℚ) * 10 ^ (0 : ℤ) =
      tenths / 10 := by
    rw [htenths, zpow_zero]
    ring
  rw [Decimal.valueOf_ofNat, Decimal.valueOf_ofNat, Decimal.length_ofNat, hcount, hvalue,
    List.append_nil] at hliteral
  rw [tenthsText, List.append_assoc]
  exact hliteral

/-- The name of the unit in which a number of bytes is written. -/
def unitName (n : Nat) : Text :=
  if scale n = 0 then (if n = 1 then "byte" else "bytes" : String)
  else (units[scale n - 1]?).getD []

theorem lookup_unitName (n : Nat) : unitRanks.lookup (unitName n) = some (scale n) := by
  have hunits : ∀ k < 5, unitRanks.lookup ((units[k]?).getD []) = some (k + 1) := by decide
  unfold unitName
  split
  · rename_i hzero
    rw [hzero]
    split <;> rfl
  · rename_i hzero
    have hscale := (isScaleOf_scale n).le_five
    rw [hunits _ (by omega), Nat.sub_add_cancel (Nat.pos_of_ne_zero hzero)]

theorem oneDecimal_eq {n rank u : Nat} {e : Int}
    (hnearest : Binary64.rational false u e = Binary64.nearest n (bytesIn rank))
    (htenths : tenths n rank < Nat.pow 10 15) : oneDecimal u e = tenthsText (tenths n rank) := by
  rcases Binary64.ratio_spec u e with ⟨hpos, hvalue⟩
  have hround : Rounding.halfEven (10 * (Binary64.ratio u e).1) (Binary64.ratio u e).2 =
      tenths n rank := by
    rw [Rounding.halfEven_eq_roundEven _ hpos, Nat.cast_mul, mul_div_assoc, hvalue, hnearest]
    rfl
  unfold oneDecimal
  dsimp only
  rw [hround, if_pos htenths]

/-- The numbers that are written in a unit have few tenths of it. -/
theorem tenths_scale_le {n : Nat} (h : n ≤ Counter.limit) :
    tenths n (scale n) ≤ 10 * 8192 := by
  apply tenths_le (by decide)
  have hscale := isScaleOf_scale n
  rcases hscale.le_five.eq_or_lt with hfive | hless
  · rw [hfive]
    exact h.trans (by decide)
  · apply (hscale.lt hless).le.trans
    rw [bytesIn_succ]
    exact Nat.mul_le_mul_right _ (by decide)

/-- What is printed for a number of bytes, behind any sign. -/
theorem exists_literal_ofNat {n : Nat} (h : n ≤ Counter.limit) :
    ∃ text, ofNat .plain n = .ok (text ++ " " ++ unitName n) ∧
      ∀ sign negative, Decimal.Sign sign negative →
        Decimal.Literal (sign ++ text) ((if negative then -1 else 1) * number n) := by
  cases hscale : scale n with
  | zero =>
      refine ⟨Text.ofNat n, ?_, ?_⟩
      · rw [ofNat_of_scale_zero hscale, unitName, if_pos hscale]
        rfl
      · intro sign negative hsign
        rw [number, if_pos hscale]
        exact literal_ofNat hsign n
  | succ rank =>
      have hne : scale n ≠ 0 := by
        rw [hscale]
        exact Nat.succ_ne_zero rank
      rcases ofRatio_of_le_limit h (bytesIn (rank + 1)) with ⟨u, e, hfinite⟩
      have hnearest := Binary64.rational_ofRatio (bytesIn_pos (rank + 1)) hfinite
      have htenths := tenths_scale_le h
      rw [hscale] at htenths
      refine ⟨tenthsText (tenths n (rank + 1)), ?_, ?_⟩
      · rw [ofNat_of_scale_succ hscale hfinite,
          oneDecimal_eq hnearest (lt_of_le_of_lt htenths (by decide)), unitName, if_neg hne, hscale]
        rfl
      · intro sign negative hsign
        rw [number, if_neg hne, hscale]
        exact literal_tenthsText hsign _

/-!
# Sizes of integers

A minus sign stands before the size of a negative integer.
-/

theorem isPrintedAs {n : Int} (h : n.natAbs ≤ Counter.limit) :
    IsPrintedAs n ((if n < 0 then -1 else 1) * number n.natAbs) (scale n.natAbs) := by
  rcases exists_literal_ofNat h with ⟨text, htext, hliteral⟩
  have hunit := lookup_unitName n.natAbs
  show ∃ t, ofInt .plain n = .ok t ∧ _
  by_cases hn : n < 0
  · have hminus := hliteral ['-'] true .minus
    refine ⟨"-" ++ (text ++ " " ++ unitName n.natAbs), ?_, ?_⟩
    · rw [ofInt, if_pos hn, htext]
      rfl
    · rw [if_pos hn]
      exact printed?_eq_some hminus hunit
  · have hplain := hliteral [] false .none
    refine ⟨text ++ " " ++ unitName n.natAbs, ?_, ?_⟩
    · rw [ofInt, if_neg hn, htext]
    · rw [if_neg hn]
      exact printed?_eq_some hplain hunit

/-- The number of bytes that the size of an integer denotes. -/
def signedDenoted (n : Int) : ℚ := (if n < 0 then -1 else 1) * denoted n.natAbs

theorem signedDenoted_eq (n : Int) :
    (if n < 0 then -1 else 1) * number n.natAbs * 1024 ^ scale n.natAbs = signedDenoted n := by
  rw [signedDenoted, denoted, cast_bytesIn, mul_assoc]

theorem signedDenoted_le_signedDenoted {a b : Int} (h : a ≤ b) :
    signedDenoted a ≤ signedDenoted b := by
  have hnonneg : ∀ n, 0 ≤ denoted n := fun n =>
    mul_nonneg (number_nonneg n) (Nat.cast_nonneg _)
  unfold signedDenoted
  rcases lt_or_ge b 0 with hb | hb
  · have hdenoted : denoted b.natAbs ≤ denoted a.natAbs := denoted_le_denoted (by omega)
    rw [if_pos hb, if_pos (lt_of_le_of_lt h hb)]
    linarith
  · rw [if_neg (not_lt.mpr hb)]
    rcases lt_or_ge a 0 with ha | ha
    · rw [if_pos ha]
      linarith [hnonneg a.natAbs, hnonneg b.natAbs]
    · have hdenoted : denoted a.natAbs ≤ denoted b.natAbs := denoted_le_denoted (by omega)
      rw [if_neg (not_lt.mpr ha)]
      linarith

theorem abs_signedDenoted_sub (n : Int) :
    |signedDenoted n - n| = |denoted n.natAbs - n.natAbs| := by
  unfold signedDenoted
  rcases lt_or_ge n 0 with hn | hn
  · have hcast : ((n.natAbs : ℤ) : ℚ) = -n := by
      rw [Int.ofNat_natAbs_of_nonpos hn.le, Int.cast_neg]
    rw [if_pos hn, ← Int.cast_natCast n.natAbs, hcast, ← abs_neg]
    congr 1
    ring
  · have hcast : ((n.natAbs : ℤ) : ℚ) = n := by rw [Int.natAbs_of_nonneg hn]
    rw [if_neg (not_lt.mpr hn), one_mul, ← Int.cast_natCast n.natAbs, hcast]

/--
Sizes keep the order of the integers: the size of a greater integer denotes no
lesser number of bytes.  With 53 bits, an integer is at most a twentieth of the
printed unit away from its size, and below 1024 it is its size.
-/
theorem sizes_keep_order :
    (∀ a b : Int, -(2 ^ 63 - 1) ≤ a → a ≤ b → b ≤ 2 ^ 63 - 1 →
      ∃ x y rank other, IsPrintedAs a x rank ∧ IsPrintedAs b y other ∧
        x * 1024 ^ rank ≤ y * 1024 ^ other) ∧
    ∀ a : Int, -(2 ^ 53) < a → a < 2 ^ 53 →
      ∃ x rank, IsPrintedAs a x rank ∧ |x * 1024 ^ rank - a| ≤ 1024 ^ rank / 20 ∧
        (-1024 < a → a < 1024 → x * 1024 ^ rank = a) := by
  have hlimit : ((Counter.limit : ℕ) : ℤ) = 2 ^ 63 - 1 := rfl
  have hunits : ((Binary64.unitLimit : ℕ) : ℤ) = 2 ^ 53 := rfl
  constructor
  · intro a b hlow hle hhigh
    refine ⟨_, _, _, _, isPrintedAs (by omega), isPrintedAs (by omega), ?_⟩
    rw [signedDenoted_eq, signedDenoted_eq]
    exact signedDenoted_le_signedDenoted hle
  · intro a hlow hhigh
    have hbits : a.natAbs < Binary64.unitLimit := by omega
    have hnear := abs_denoted_sub_le hbits
    rw [← abs_signedDenoted_sub, cast_bytesIn] at hnear
    refine ⟨_, _, isPrintedAs (by omega), ?_, ?_⟩
    · rw [signedDenoted_eq]
      exact hnear
    · intro hless hgreater
      have hscale : scale a.natAbs = 0 := if_pos (show a.natAbs < 1024 by omega)
      rw [signedDenoted_eq, ← sub_eq_zero, ← abs_eq_zero, abs_signedDenoted_sub,
        denoted_of_scale_zero hscale, sub_self, abs_zero]

/-- The size below a megabyte is rounded up to 1024.0 KB, which is one megabyte. -/
theorem sizes_next_to_megabyte :
    (∃ x y rank other, IsPrintedAs 1048575 x rank ∧ IsPrintedAs 1048576 y other ∧
      x * 1024 ^ rank ≤ y * 1024 ^ other) ∧
    ∃ x rank, IsPrintedAs 1000 x rank ∧ x * 1024 ^ rank = (1000 : ℤ) := by
  constructor
  · exact sizes_keep_order.1 1048575 1048576 (by decide) (by decide) (by decide)
  · rcases sizes_keep_order.2 1000 (by decide) (by decide) with ⟨x, rank, hprinted, _, hexact⟩
    exact ⟨x, rank, hprinted, hexact (by decide) (by decide)⟩

end Size
end TunnelBoard
