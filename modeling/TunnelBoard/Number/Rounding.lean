/-!
# Rounded division

Quotients of natural numbers are rounded to a nearest natural number.  The two
rules differ only on quotients half-way between two numbers: one goes to the
even neighbour, the other to the greater one.
-/

namespace TunnelBoard
namespace Rounding

/-- The nearest number to `n / d`; a half goes to the even neighbour. -/
def halfEven (n d : Nat) : Nat :=
  let q := n / d
  let r := n % d
  if 2 * r < d then q
  else if d < 2 * r then q + 1
  else q + q % 2

/-- The nearest number to `n / d`; a half goes up. -/
def halfUp (n d : Nat) : Nat := (2 * n + d) / (2 * d)

/-!
# Distance

A rounded quotient is at most half a unit away from the exact one, and which quotients
are rounded to at least a given number is decided by the half below it.
-/

theorem halfEven_eq (n d : Nat) :
    halfEven n d =
      if 2 * (n % d) < d then n / d
      else if d < 2 * (n % d) then n / d + 1
      else n / d + n / d % 2 := rfl

theorem two_mul_le_halfEven (n : Nat) {d : Nat} (hd : 0 < d) :
    2 * n ≤ 2 * (halfEven n d * d) + d := by
  have exact : n / d * d + n % d = n := by
    rw [Nat.mul_comm]
    exact Nat.div_add_mod n d
  have less : n % d < d := Nat.mod_lt n hd
  rw [halfEven_eq]
  generalize n / d = q at *
  generalize n % d = r at *
  split
  · omega
  · split
    · rw [Nat.add_mul]
      omega
    · rw [Nat.add_mul]
      omega

theorem two_mul_halfEven_le (n d : Nat) : 2 * (halfEven n d * d) ≤ 2 * n + d := by
  have exact : n / d * d + n % d = n := by
    rw [Nat.mul_comm]
    exact Nat.div_add_mod n d
  rw [halfEven_eq]
  generalize n / d = q at *
  generalize n % d = r at *
  split
  · omega
  · split
    · rw [Nat.add_mul]
      omega
    · rw [Nat.add_mul]
      have : q % 2 * d ≤ 1 * d := Nat.mul_le_mul_right d (by omega)
      omega

/-- A quotient is rounded above a number if it is above the half behind it, or on that half. -/
theorem lt_halfEven_iff {n d m : Nat} (hd : 0 < d) :
    m < halfEven n d ↔
      (2 * m + 1) * d < 2 * n ∨ (2 * m + 1) * d = 2 * n ∧ m % 2 = 1 := by
  have exact : n / d * d + n % d = n := by
    rw [Nat.mul_comm]
    exact Nat.div_add_mod n d
  have less : n % d < d := Nat.mod_lt n hd
  have hhalf : (2 * m + 1) * d = 2 * (m * d) + d := by
    rw [Nat.add_mul, Nat.mul_assoc, Nat.one_mul]
  rw [halfEven_eq, hhalf]
  generalize n / d = q at *
  generalize n % d = r at *
  rcases Nat.lt_trichotomy m q with hm | hm | hm
  · have hmul : (m + 1) * d ≤ q * d := Nat.mul_le_mul_right d hm
    rw [Nat.add_mul] at hmul
    constructor
    · intro _
      omega
    · intro _
      split
      · exact hm
      · split <;> omega
  · subst hm
    split
    · omega
    · split <;> omega
  · have hmul : (q + 1) * d ≤ m * d := Nat.mul_le_mul_right d hm
    rw [Nat.add_mul] at hmul
    constructor
    · split
      · omega
      · split <;> omega
    · omega

/-- A quotient is rounded to at least an even number if it is at most a half below it. -/
theorem le_halfEven_iff {n d m : Nat} (hd : 0 < d) (hm : m % 2 = 0) :
    m ≤ halfEven n d ↔ 2 * (m * d) ≤ 2 * n + d := by
  cases m with
  | zero => simp
  | succ m =>
      have hhalf : (2 * m + 1) * d + d = 2 * ((m + 1) * d) := by
        rw [← Nat.succ_mul, ← Nat.mul_assoc]
        rfl
      have hodd : m % 2 = 1 := by omega
      rw [Nat.succ_le_iff, lt_halfEven_iff hd, ← hhalf, Nat.add_le_add_iff_right,
        Nat.le_iff_lt_or_eq]
      simp only [hodd, and_true]

theorem halfEven_le_halfEven {n d m e : Nat} (hd : 0 < d) (he : 0 < e) (h : n * e ≤ m * d) :
    halfEven n d ≤ halfEven m e := by
  have hstep : ∀ k, k < halfEven n d → k < halfEven m e := by
    intro k hk
    have hscale : (2 * k + 1) * d * e = (2 * k + 1) * e * d := Nat.mul_right_comm ..
    have hdouble : 2 * n * e ≤ 2 * m * d := by
      rw [Nat.mul_assoc, Nat.mul_assoc]
      exact Nat.mul_le_mul_left 2 h
    rw [lt_halfEven_iff hd] at hk
    rw [lt_halfEven_iff he]
    rcases hk with hk | ⟨hk, hodd⟩
    · have hless : (2 * k + 1) * d * e < 2 * n * e := Nat.mul_lt_mul_of_pos_right hk he
      rw [hscale] at hless
      exact .inl (Nat.lt_of_mul_lt_mul_right (Nat.lt_of_lt_of_le hless hdouble))
    · rw [← hk, hscale] at hdouble
      rcases Nat.lt_or_eq_of_le (Nat.le_of_mul_le_mul_right hdouble hd) with hless | heq
      · exact .inl hless
      · exact .inr ⟨heq, hodd⟩
  exact Nat.le_of_not_lt fun hless => Nat.lt_irrefl _ (hstep _ hless)

/-- A quotient is rounded to more than a number if it reaches the half above it. -/
theorem lt_halfUp_iff {n d m : Nat} (hd : 0 < d) :
    m < halfUp n d ↔ (2 * m + 1) * d ≤ 2 * n := by
  have hnext : (m + 1) * (2 * d) = (2 * m + 1) * d + d := by
    rw [Nat.mul_left_comm, Nat.succ_mul m, Nat.succ_mul (2 * m), Nat.mul_assoc]
    omega
  rw [halfUp, Nat.lt_iff_add_one_le, Nat.le_div_iff_mul_le (by omega), hnext,
    Nat.add_le_add_iff_right]

end Rounding
end TunnelBoard
