import TunnelBoard.Chart.Size
import TunnelBoard.Counter
import TunnelBoard.Proofs.Text.Digits
import TunnelBoard.Proofs.Text.Writable

/-!
# Sizes of counters

A counter of bytes is far below the greatest floating point number, so it always
has a size.  The text of a size can always be written.
-/

namespace TunnelBoard

theorem Binary64.unitOf_le (n d : Nat) : unitOf n d ≤ max leastUnit (Nat.log2 n) := by
  unfold unitOf leastUnit
  dsimp only
  split <;> omega

theorem Binary64.ofUnits_eq_finite (negative : Bool) (units : Nat) {unit : Int}
    (h : unit < greatestUnit) : ∃ m e, ofUnits negative units unit = .finite negative m e := by
  unfold ofUnits bounded
  by_cases hcarry : units = unitLimit
  · rw [if_pos hcarry, if_neg (by omega)]
    exact ⟨_, _, rfl⟩
  · rw [if_neg hcarry, if_neg (by omega)]
    exact ⟨_, _, rfl⟩

theorem Binary64.ofRatio_eq_finite (negative : Bool) {n : Nat} (d : Nat)
    (h : Nat.log2 n < greatestUnit) :
    ∃ units unit, ofRatio negative n d = .finite negative units unit := by
  by_cases hzero : n = 0
  · exact ⟨_, _, by rw [ofRatio, if_pos hzero]⟩
  · have hunit := unitOf_le n d
    rw [ofRatio, if_neg hzero]
    generalize unitOf n d = unit at hunit ⊢
    apply ofUnits_eq_finite
    unfold leastUnit at hunit
    unfold greatestUnit at h ⊢
    omega

namespace Size

/-!
# Texts

The number and the unit of a size are ASCII, and the spacing only decides what
stands between them.
-/

theorem isAscii_layOut {digits : Text} (h : digits.isAscii = true) (point : Int) :
    (layOut digits point).isAscii = true := by
  have hliteral : (".": Text).isAscii = true ∧ ("0" : Text).isAscii = true ∧
      ("e+" : Text).isAscii = true ∧ (".0" : Text).isAscii = true := ⟨rfl, rfl, rfl, rfl⟩
  have hzeros : ∀ n, Text.isAscii (List.replicate n ('0' : CodePoint)) = true := by
    intro n
    apply List.all_eq_true.mpr
    intro c hc
    rw [List.eq_of_mem_replicate hc]
    rfl
  have htake : ∀ (t : Text) n, t.isAscii = true → Text.isAscii (t.take n) = true :=
    fun t n ht => Text.isAscii_of_subset ht (List.take_subset n t)
  have hdrop : ∀ (t : Text) n, t.isAscii = true → Text.isAscii (t.drop n) = true :=
    fun t n ht => Text.isAscii_of_subset ht (List.drop_subset n t)
  have hpower : (Text.ofInt (point - 1)).isAscii = true := Text.isAscii_ofInt _
  unfold layOut
  split
  · simp [Text.isAscii_append, h, hliteral, hzeros, htake, hdrop]
  split
  · simp [-List.drop_one, Text.isAscii_append, h, hliteral, htake, hdrop, hpower]
  · simp [Text.isAscii_append, h, hliteral, hzeros]

theorem isAscii_oneDecimal (units : Nat) (unit : Int) :
    (oneDecimal units unit).isAscii = true := by
  unfold oneDecimal
  dsimp only
  split
  · have hpoint : (".": Text).isAscii = true := rfl
    simp [tenthsText, Text.isAscii_append, Text.isAscii_ofNat, hpoint]
  split
  · exact isAscii_layOut (Text.isAscii_ofNat _) _
  · rfl

theorem isAscii_unit (k : Nat) : ((units[k]?).getD []).isAscii = true := by
  cases hk : units[k]? with
  | none => rfl
  | some unit =>
      have hall : ∀ unit ∈ units, unit.isAscii = true := by decide
      exact hall unit (List.mem_of_getElem? hk)

theorem ofRatio_of_le_limit {n : Nat} (h : n ≤ Counter.limit) (d : Nat) :
    ∃ units unit, Binary64.ofRatio false n d = .finite false units unit := by
  apply Binary64.ofRatio_eq_finite
  have hlog : Nat.log2 n < 63 := by
    by_cases hzero : n = 0
    · subst hzero
      decide
    · apply (Nat.log2_lt hzero).mpr
      unfold Counter.limit at h
      omega
  unfold Binary64.greatestUnit
  omega

theorem ofNat_of_scale_zero {n : Nat} (h : scale n = 0) (spacing : Spacing) :
    ofNat spacing n =
      .ok (Text.ofNat n ++ spacing.text ++ (if n = 1 then "byte" else "bytes" : String)) := by
  rw [ofNat, h]

theorem ofNat_of_scale_succ {n rank u : Nat} {e : Int} (h : scale n = rank + 1)
    (hfinite : Binary64.ofRatio false n (bytesIn (rank + 1)) = .finite false u e)
    (spacing : Spacing) :
    ofNat spacing n = .ok (oneDecimal u e ++ spacing.text ++ (units[rank]?).getD []) := by
  rw [ofNat, h]
  dsimp only
  rw [hfinite]

theorem ofNat_eq_append {n : Nat} (h : n ≤ Counter.limit) :
    ∃ number unit : Text, number.isAscii = true ∧ unit.isAscii = true ∧
      ∀ spacing, ofNat spacing n = .ok (number ++ spacing.text ++ unit) := by
  cases hscale : scale n with
  | zero =>
      have hunit : (Text.ofString (if n = 1 then "byte" else "bytes")).isAscii = true := by
        split <;> rfl
      exact ⟨Text.ofNat n, _, Text.isAscii_ofNat n, hunit, ofNat_of_scale_zero hscale⟩
  | succ rank =>
      rcases ofRatio_of_le_limit h (bytesIn (rank + 1)) with ⟨u, e, hfinite⟩
      exact ⟨oneDecimal u e, _, isAscii_oneDecimal u e, isAscii_unit rank,
        ofNat_of_scale_succ hscale hfinite⟩

theorem ofNat_eq_ok (spacing : Spacing) {n : Nat} (h : n ≤ Counter.limit) :
    ∃ t, ofNat spacing n = .ok t ∧ t.IsWritable := by
  rcases ofNat_eq_append h with ⟨number, unit, hnumber, hunit, hofNat⟩
  have hspacing : spacing.text.IsWritable := by
    cases spacing with
    | plain => exact Text.isWritable_ofString " "
    | unbroken => exact (Text.isWritable_cons _ _).mpr ⟨rfl, Text.isWritable_nil⟩
  exact ⟨_, hofNat spacing, by
    simp [hspacing, Text.isWritable_of_isAscii hnumber, Text.isWritable_of_isAscii hunit]⟩

/-!
# Spacing
-/

/-- A text with spaces that can be broken. -/
def breakable (t : Text) : Text := t.map fun c => if c = 0xA0 then ' ' else c

theorem breakable_of_isAscii {t : Text} (h : t.isAscii = true) : breakable t = t := by
  apply (List.map_congr_left ?_).trans (List.map_id t)
  intro c hc
  have hsmall := List.all_eq_true.mp h c hc
  apply if_neg
  intro heq
  rw [heq] at hsmall
  cases hsmall

theorem ofNat_plain_eq {n : Nat} (h : n ≤ Counter.limit) {t : Text}
    (ht : ofNat .unbroken n = .ok t) : ofNat .plain n = .ok (breakable t) := by
  rcases ofNat_eq_append h with ⟨number, unit, hnumber, hunit, hofNat⟩
  rw [hofNat] at ht ⊢
  cases ht
  have happend : ∀ s t : Text, breakable (s ++ t) = breakable s ++ breakable t := fun s t =>
    List.map_append
  rw [happend, happend, breakable_of_isAscii hnumber, breakable_of_isAscii hunit]
  rfl

end Size

end TunnelBoard
