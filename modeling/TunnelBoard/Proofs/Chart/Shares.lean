import Mathlib.Tactic.Ring
import TunnelBoard.Chart.Percent
import TunnelBoard.Counter
import TunnelBoard.Proofs.Text.Digits

/-!
# Shares in percent

The share of a part in its whole is rounded twice: to some decimal places, and from
there to an integer.  The first rounding never crosses a half, because halves have a
single decimal place, so a share passes an integer and a half if and only if it comes
near enough to it for the places that are kept.
-/

namespace TunnelBoard

namespace Decimal

/-!
# Places
-/

theorem digitCount_le_digitCount {n m : Nat} (h : n ≤ m) : digitCount n ≤ digitCount m :=
  (digitCount_le_iff (digitCount_pos m)).mpr (Nat.lt_of_le_of_lt h (lt_pow_digitCount m))

theorem digitCount_mul_hundred_le {n d : Nat} (h : n ≤ d) :
    digitCount (100 * n) ≤ digitCount d + 2 := by
  have hd := lt_pow_digitCount d
  have hpow : Nat.pow 10 (digitCount d + 2) = Nat.pow 10 (digitCount d) * 100 :=
    Nat.pow_add 10 (digitCount d) 2
  rw [digitCount_le_iff (by omega), hpow]
  omega

theorem lastPlace_eq (precision n d : Nat) :
    lastPlace precision n d =
      let low : Int := (digitCount n : Int) - digitCount d - precision
      if (inPlaces n d low).1 < (inPlaces n d low).2 * Nat.pow 10 precision then low
      else low + 1 := rfl

theorem quotient_eq (precision n d : Nat) :
    quotient precision n d =
      (Rounding.halfEven (inPlaces n d (lastPlace precision n d)).1
        (inPlaces n d (lastPlace precision n d)).2, lastPlace precision n d) := rfl

theorem inPlaces_of_neg (n d : Nat) {e : Int} (he : e < 0) :
    inPlaces n d e = (n * Nat.pow 10 e.natAbs, d) :=
  if_neg (Int.not_le.mpr he)

/-- The greater of two quotients loses more places. -/
theorem lastPlace_le_lastPlace {n m : Nat} (h : n ≤ m) (precision d : Nat) :
    lastPlace precision n d ≤ lastPlace precision m d := by
  have hcount := digitCount_le_digitCount h
  rw [lastPlace_eq, lastPlace_eq]
  dsimp only
  rcases Nat.lt_or_eq_of_le hcount with hless | hequal
  · split <;> split <;> omega
  · rw [hequal]
    generalize (digitCount m : Int) - digitCount d - precision = low
    have hparts : (inPlaces n d low).1 ≤ (inPlaces m d low).1 ∧
        (inPlaces n d low).2 = (inPlaces m d low).2 := by
      unfold inPlaces
      split
      · exact ⟨h, rfl⟩
      · exact ⟨Nat.mul_le_mul_right _ h, rfl⟩
    rw [hparts.2]
    split <;> split <;> omega

end Decimal

namespace Percent

/-- A percentage has at most three digits before its point, so at least 25 behind it. -/
theorem lastPlace_le {n d : Nat} (h : n ≤ d) :
    Decimal.lastPlace precision (100 * n) d ≤ -25 := by
  have hcount := Decimal.digitCount_mul_hundred_le h
  rw [Decimal.lastPlace_eq]
  unfold precision
  dsimp only
  split <;> omega

/-- Below one hundred there are at most two digits before the point. -/
theorem lastPlace_lt {n d : Nat} (h : n < d) :
    Decimal.lastPlace precision (100 * n) d < -25 := by
  have hcount := Decimal.digitCount_mul_hundred_le (Nat.le_of_lt h)
  rw [Decimal.lastPlace_eq]
  dsimp only
  rcases Int.lt_or_eq_of_le
      (show (Decimal.digitCount (100 * n) : Int) - Decimal.digitCount d - precision ≤ -26 by
        unfold precision; omega) with hlow | hlow
  · split <;> omega
  · have hfits : 100 * n * Nat.pow 10 26 < d * Nat.pow 10 precision := by
      have hpow : Nat.pow 10 precision = 100 * Nat.pow 10 26 := by decide
      have hpos : 0 < Nat.pow 10 26 := by decide
      rw [hpow, Nat.mul_left_comm, Nat.mul_assoc]
      exact Nat.mul_lt_mul_of_pos_left (Nat.mul_lt_mul_of_pos_right h hpos) (by decide)
    rw [hlow, Decimal.inPlaces_of_neg _ _ (by decide)]
    change (if 100 * n * Nat.pow 10 26 < _ then (-26 : Int) else _) < -25
    rw [if_pos hfits]
    decide

/-- The decimal places of a share behind the first of its roundings. -/
def places (n d : Nat) : Nat := (Decimal.lastPlace precision (100 * n) d).natAbs

theorem le_places {n d : Nat} (h : n ≤ d) : 25 ≤ places n d := by
  have hplace := lastPlace_le h
  unfold places
  omega

theorem lt_places {n d : Nat} (h : n < d) : 25 < places n d := by
  have hplace := lastPlace_lt h
  unfold places
  omega

theorem places_le_places {n m d : Nat} (h : n ≤ m) (hm : m ≤ d) : places m d ≤ places n d := by
  have hplaces := Decimal.lastPlace_le_lastPlace (Nat.mul_le_mul_left 100 h) precision d
  have hplace := lastPlace_le hm
  unfold places
  omega

/-- The two roundings of a share: to some decimal places, and from there to an integer. -/
theorem round_eq {n d : Nat} (h : n ≤ d) :
    round n d =
      Rounding.halfUp (Rounding.halfEven (100 * n * Nat.pow 10 (places n d)) d)
        (Nat.pow 10 (places n d)) := by
  have hplace := lastPlace_le h
  rw [round, Decimal.quotient_eq, places]
  -- The place is kept abstract, for it is found by comparing huge numbers.
  generalize Decimal.lastPlace precision (100 * n) d = place at hplace ⊢
  rw [Decimal.inPlaces_of_neg _ _ (by omega), Decimal.nearestInteger, if_neg (by omega)]

/--
A share is rounded to more than an integer if and only if it reaches the half above
the integer, or misses it by less than the places that are kept can tell.
-/
theorem lt_round_iff {n d : Nat} (hd : 0 < d) (h : n ≤ d) (m : Nat) :
    m < round n d ↔
      (2 * m + 1) * d * Nat.pow 10 (places n d) ≤
        2 * (100 * n) * Nat.pow 10 (places n d) + d := by
  have hplaces := le_places h
  rw [round_eq h]
  generalize places n d = places at hplaces ⊢
  generalize hquarter : 25 * Nat.pow 10 (places - 2) = quarter
  have hpow : Nat.pow 10 places = 4 * quarter := by
    have hsplit : Nat.pow 10 (places - 2 + 2) = Nat.pow 10 (places - 2) * 100 :=
      Nat.pow_add 10 (places - 2) 2
    rw [Nat.sub_add_cancel (by omega)] at hsplit
    omega
  have hpos : 0 < Nat.pow 10 places := Nat.pow_pos (by decide)
  -- The half is an even number of units in the last place.
  have hhalf : (2 * m + 1) * Nat.pow 10 places = 2 * (2 * ((2 * m + 1) * quarter)) := by
    rw [hpow]
    ring
  rw [Rounding.lt_halfUp_iff hpos, hhalf, Nat.mul_le_mul_left_iff (by decide),
    Rounding.le_halfEven_iff hd (Nat.mul_mod_right 2 _), hpow]
  have hleft : 2 * (2 * ((2 * m + 1) * quarter) * d) = (2 * m + 1) * d * (4 * quarter) := by ring
  have hright : 2 * (100 * n * (4 * quarter)) = 2 * (100 * n) * (4 * quarter) := by ring
  rw [hleft, hright]

/-!
# Errors

The second rounding never ends more than a half below the exact share.  It may end
more than a half above it, but only by what the first rounding added.
-/

/-- What holds up to a fixed error in small units holds in greater ones. -/
theorem le_add_of_scale_le {a b c s t : Nat} (hscale : s ≤ t) (h : a * t ≤ b * t + c) :
    a * s ≤ b * s + c := by
  rcases Nat.le_total a b with hle | hle
  · exact Nat.le_add_right_of_le (Nat.mul_le_mul_right s hle)
  · rcases Nat.exists_eq_add_of_le hle with ⟨excess, hexcess⟩
    rw [hexcess, Nat.add_mul] at h ⊢
    have hscaled : excess * s ≤ excess * t := Nat.mul_le_mul_left excess hscale
    omega

theorem round_le {n d : Nat} (hd : 0 < d) (h : n ≤ d) : round n d ≤ 100 := by
  apply Nat.le_of_not_lt
  rw [lt_round_iff hd h]
  intro hmore
  have hunits : 2 ≤ Nat.pow 10 (places n d) :=
    Nat.le_trans (by decide) (Nat.pow_le_pow_right (by decide) (le_places h))
  have hscaled := le_add_of_scale_le hunits hmore
  omega

theorem lt_round {n d : Nat} (hd : 0 < d) (h : n ≤ d) :
    2 * (100 * n) < 2 * (round n d * d) + d := by
  have hlast : ¬ round n d < round n d := Nat.lt_irrefl _
  rw [lt_round_iff hd h] at hlast
  apply Nat.lt_of_not_le
  intro hle
  have hhalf : (2 * round n d + 1) * d ≤ 2 * (100 * n) := by
    rw [Nat.add_mul, Nat.one_mul, Nat.mul_assoc]
    exact hle
  exact hlast (Nat.le_add_right_of_le (Nat.mul_le_mul_right _ hhalf))

theorem round_sub_le {n d : Nat} (h : n ≤ d) :
    Nat.pow 10 25 * (2 * (round n d * d)) ≤ Nat.pow 10 25 * (2 * (100 * n) + d) + d := by
  rcases Nat.eq_zero_or_pos d with hzero | hpos
  · rw [hzero, Nat.mul_zero]
    exact Nat.zero_le _
  · cases hround : round n d with
    | zero =>
        rw [Nat.zero_mul]
        exact Nat.zero_le _
    | succ m =>
        have hreached : m < round n d := hround ▸ Nat.lt_succ_self m
        have hunits : Nat.pow 10 25 ≤ Nat.pow 10 (places n d) :=
          Nat.pow_le_pow_right (by decide) (le_places h)
        have hscaled := le_add_of_scale_le hunits ((lt_round_iff hpos h m).mp hreached)
        have hnext : 2 * ((m + 1) * d) = (2 * m + 1) * d + d := by ring
        rw [hnext, Nat.mul_comm, Nat.mul_comm (Nat.pow 10 25), Nat.add_mul _ d, Nat.add_mul _ d,
          Nat.add_right_comm]
        exact Nat.add_le_add_right hscaled _

/-- In a whole of less than 25 digits the first rounding adds nothing that shows. -/
theorem two_mul_round_le {n d : Nat} (h : n ≤ d) (hd : d < Nat.pow 10 25) :
    2 * (round n d * d) ≤ 2 * (100 * n) + d := by
  have hsub := round_sub_le h
  apply Nat.le_of_lt_succ
  apply Nat.lt_of_mul_lt_mul_left (a := Nat.pow 10 25)
  rw [Nat.mul_succ]
  omega

/-- A greater part of a whole never has a smaller share. -/
theorem round_le_round {n m d : Nat} (hd : 0 < d) (h : n ≤ m) (hm : m ≤ d) :
    round n d ≤ round m d := by
  apply Nat.le_of_not_lt
  intro hless
  have hn : n ≤ d := Nat.le_trans h hm
  have hunits : Nat.pow 10 (places m d) ≤ Nat.pow 10 (places n d) :=
    Nat.pow_le_pow_right (by decide) (places_le_places h hm)
  have hscaled := le_add_of_scale_le hunits ((lt_round_iff hd hn _).mp hless)
  have hgreater : 2 * (100 * n) * Nat.pow 10 (places m d) ≤
      2 * (100 * m) * Nat.pow 10 (places m d) :=
    Nat.mul_le_mul_right _ (by omega)
  have hreached : round m d < round m d := (lt_round_iff hd hm _).mpr (by omega)
  exact Nat.lt_irrefl _ hreached

/-- In a whole of at most 26 digits the two roundings are a single one. -/
theorem round_eq_halfUp {n d : Nat} (hd : 0 < d) (h : n ≤ d) (hsmall : d < Nat.pow 10 26) :
    round n d = Rounding.halfUp (100 * n) d := by
  apply eq_of_forall_lt_iff
  intro m
  rw [Rounding.lt_halfUp_iff hd]
  constructor
  · intro hless
    rcases Nat.lt_or_eq_of_le h with hpart | hwhole
    · have hunits : Nat.pow 10 26 ≤ Nat.pow 10 (places n d) :=
        Nat.pow_le_pow_right (by decide) (lt_places hpart)
      have hscaled := le_add_of_scale_le hunits ((lt_round_iff hd h m).mp hless)
      apply Nat.le_of_lt_succ
      apply Nat.lt_of_mul_lt_mul_right (a := Nat.pow 10 26)
      rw [Nat.succ_mul (2 * (100 * n))]
      omega
    · have hmost : m < 100 := Nat.lt_of_lt_of_le hless (round_le hd h)
      have hmul : (2 * m + 1) * d ≤ 200 * d := Nat.mul_le_mul_right d (by omega)
      omega
  · intro hhalf
    exact (lt_round_iff hd h m).mpr (Nat.le_add_right_of_le (Nat.mul_le_mul_right _ hhalf))

/-!
# Shares
-/

theorem share_eq_ok {value total : Int} (hvalue : 0 ≤ value) (h : value ≤ total) :
    share value total = .ok (round value.toNat (max 1 total.toNat) : Nat) := by
  have hround : round value.toNat (max 1 total.toNat) ≤ 100 := round_le (by omega) (by omega)
  have hparts : value.natAbs = value.toNat ∧ (max 1 total).natAbs = max 1 total.toNat := by omega
  have hdigits : ¬ Nat.pow 10 precision ≤ round value.toNat (max 1 total.toNat) := by
    have : 100 < Nat.pow 10 precision := by decide
    omega
  rw [share, hparts.1, hparts.2, if_neg hdigits, if_neg (by omega)]

theorem halfUp_toNat {value total : Int} (hvalue : 0 ≤ value) (htotal : 0 < total) :
    (Rounding.halfUp (100 * value.toNat) total.toNat : Int) =
      (200 * value + total) / (2 * total) := by
  have hparts : (value.toNat : Int) = value ∧ (total.toNat : Int) = total := by omega
  rw [Rounding.halfUp, Int.natCast_ediv]
  push_cast
  rw [hparts.1, hparts.2, ← Int.mul_assoc]
  rfl

/--
Every part of a whole has a share, which lies between zero and one hundred and does
not fall when the part grows.  As long as the whole has at most 26 digits, as the
sum of seven counters has, the share is the exact one rounded once, a half going up.
-/
theorem share_rounds_half_up (total : Int) :
    (7 * Counter.limit : Int) < 10 ^ 26 ∧
      ∃ percent : Int → Int,
        (∀ value, 0 ≤ value → value ≤ total →
          share value total = .ok (percent value) ∧ 0 ≤ percent value ∧ percent value ≤ 100) ∧
        (∀ part value, 0 ≤ part → part ≤ value → value ≤ total →
          percent part ≤ percent value) ∧
        (total < 10 ^ 26 → ∀ value, 0 ≤ value → value ≤ total →
          percent value = if total = 0 then 0 else (200 * value + total) / (2 * total)) := by
  have hwhole : 0 < max 1 total.toNat := by omega
  refine ⟨by decide, fun value => (round value.toNat (max 1 total.toNat) : Nat), ?_, ?_, ?_⟩
  · intro value hvalue h
    have hround : round value.toNat (max 1 total.toNat) ≤ 100 := round_le hwhole (by omega)
    exact ⟨share_eq_ok hvalue h, Int.natCast_nonneg _, Int.ofNat_le.mpr hround⟩
  · intro part value hpart hless h
    exact Int.ofNat_le.mpr (round_le_round hwhole (by omega) (by omega))
  · intro hsmall value hvalue h
    have hsmall' : max 1 total.toNat < Nat.pow 10 26 := by
      have hpow : Nat.pow 10 26 = 100000000000000000000000000 := by decide
      omega
    dsimp only
    rw [round_eq_halfUp hwhole (by omega) hsmall']
    split
    · rename_i hzero
      have hnone : value = 0 := by omega
      rw [hzero, hnone]
      rfl
    · have hpos : max 1 total.toNat = total.toNat := by omega
      rw [hpos]
      exact halfUp_toNat hvalue (by omega)

/-- A share as near below 99.5 percent as a share in a whole of 26 digits can be. -/
theorem share_next_to_half :
    share 99499999999999999999999999 99999999999999999999999999 = .ok 99 := by
  rcases share_rounds_half_up 99999999999999999999999999 with ⟨_, percent, hshare, _, hexact⟩
  have hvalue := hexact (by decide) 99499999999999999999999999 (by decide) (by decide)
  rw [(hshare 99499999999999999999999999 (by decide) (by decide)).1, hvalue]
  rfl

/-- In a whole of 27 digits the first rounding can end on a half that was not reached. -/
example :
    let total : Int := 100000000000000000000000003
    let value : Int := 33500000000000000000000001
    share value total = .ok 34 ∧ (200 * value + total) / (2 * total) = 33 := by
  decide

end Percent
end TunnelBoard
