import TunnelBoard.Counter
import TunnelBoard.Proofs.Number.Printing

/-!
# Counters of numbers

The counter of a number is the number without its fraction, if that is in range.
The look at the first digit of a numeral, which keeps huge powers of ten from being
spelled out, only turns numbers away that are out of range anyway, and an integer
has the same counter as every text that writes it.
-/

namespace TunnelBoard
namespace Counter

/-- The counter of a number: the number without its fraction, or zero if that is out of range. -/
def ofRational (x : ℚ) : Nat :=
  if 0 ≤ truncation x ∧ truncation x ≤ 2 ^ 63 - 1 then (truncation x).toNat else 0

theorem ofRational_eq_ofInt (x : ℚ) : ofRational x = ofInt (truncation x) := by
  have hlimit : (limit : ℤ) = 2 ^ 63 - 1 := by decide
  unfold ofRational ofInt
  rw [hlimit]
  simp only [Bool.and_eq_true, decide_eq_true_eq]

/-!
# The look at the first digit
-/

section

variable {c : Nat} {e : Int}

theorem integerPart_of_powerLimit_lt (h : powerLimit < Decimal.leadingPower c e) :
    Decimal.integerPart c e = 0 ∨ 10 ^ 19 ≤ Decimal.integerPart c e := by
  cases Nat.eq_zero_or_pos c with
  | inl hc =>
      rw [hc]
      exact .inl (Decimal.integerPart_zero e)
  | inr hc => exact .inr (Decimal.le_integerPart (k := 18) hc h)

theorem integerPart_of_le_powerLimit (h : Decimal.leadingPower c e ≤ powerLimit) :
    Decimal.integerPart c e < 10 ^ 19 :=
  Decimal.integerPart_lt (k := 18) h

/-- A number whose first digit is too far in front is out of range or less than one. -/
theorem not_inRange_of_powerLimit_lt (h : powerLimit < Decimal.leadingPower c e)
    (negative : Bool) :
    ¬ (1 ≤ truncation (Decimal.rational negative c e) ∧
      truncation (Decimal.rational negative c e) ≤ 2 ^ 63 - 1) := by
  have habs := Decimal.natAbs_truncation_rational negative c e
  intro hrange
  rcases integerPart_of_powerLimit_lt h with hzero | hlarge
  · omega
  · omega

theorem ofDecimal_finite (negative : Bool) (c : Nat) (e : Int) :
    ofDecimal (.finite negative c e) = ofRational (Decimal.rational negative c e) := by
  rw [ofDecimal]
  split
  · rename_i hguard
    have hrange := not_inRange_of_powerLimit_lt hguard negative
    unfold ofRational
    split
    · omega
    · rfl
  · rw [ofRational_eq_ofInt, Decimal.truncation_rational]

end

/-!
# Texts
-/

theorem ofText_eq (t : Text) : ofText t = (Decimal.ofText? t).elim 0 ofDecimal := by
  rw [ofText, Decimal.ofText?, Decimal.ofText?, Decimal.prepare?, Decimal.prepare?, Text.trim_trim]

theorem ofText_of_denotes {t : Text} {x : ℚ} (h : t.Denotes x) : ofText t = ofRational x := by
  rcases (Text.denotes_iff t x).mp h with ⟨negative, c, e, hread, hx⟩
  rw [ofText_eq, hread, hx]
  exact ofDecimal_finite negative c e

theorem ofText_of_not_denotes {t : Text} (h : ∀ x, ¬ t.Denotes x) : ofText t = 0 := by
  rw [ofText_eq]
  cases hread : Decimal.ofText? t with
  | none => rfl
  | some d =>
      cases d with
      | finite negative c e =>
          exact absurd ((Text.denotes_iff t _).mpr ⟨negative, c, e, hread, rfl⟩) (h _)
      | infinite negative => rfl
      | nan negative signaling payload => rfl

/-!
# Values
-/

/--
A counter is what is left of a number without its fraction, if that is in range,
and zero otherwise.  Numbers that are turned away by their first digit have no
counter but zero, and the integer parts of the other ones are short.  Integers have
the counters of the texts that write them, and whatever is no number has the
counter zero.
-/
theorem ofValue_truncates :
    (∀ (t : Text) (x : ℚ), t.Denotes x → ofValue (.text t) = ofRational x) ∧
      (∀ negative c e, ofValue (.decimal (.finite negative c e)) =
        ofRational (Decimal.rational negative c e)) ∧
      (∀ negative c e, powerLimit < Decimal.leadingPower c e →
        ¬ (1 ≤ truncation (Decimal.rational negative c e) ∧
          truncation (Decimal.rational negative c e) ≤ 2 ^ 63 - 1)) ∧
      (∀ negative c e, Decimal.leadingPower c e ≤ powerLimit →
        truncation (Decimal.rational negative c e) =
            (if negative then -(Decimal.integerPart c e : ℤ) else Decimal.integerPart c e) ∧
          Decimal.integerPart c e < 10 ^ 19) ∧
      (∀ n : Int, ofValue (.int n) = ofRational n ∧
        ofValue (.text (Text.ofInt n)) = ofValue (.int n) ∧
        ∀ t, Text.Writes t n → ofValue (.text t) = ofValue (.int n)) ∧
      (∀ t : Text, (∀ x, ¬ t.Denotes x) → ofValue (.text t) = 0) ∧
      (∀ negative, ofValue (.decimal (.infinite negative)) = 0) ∧
      (∀ negative signaling payload, ofValue (.decimal (.nan negative signaling payload)) = 0) ∧
      ofValue .null = 0 ∧ ∀ b, ofValue (.bool b) = 0 := by
  have hint : ∀ n : Int, ofValue (.int n) = ofRational n := by
    intro n
    rw [ofRational_eq_ofInt, truncation_intCast]
    rfl
  have hwrites : ∀ (n : Int) (t : Text), Text.Writes t n →
      ofValue (.text t) = ofValue (.int n) := by
    intro n t h
    rw [hint]
    exact ofText_of_denotes (Text.denotes_of_writes h)
  refine ⟨fun t x h => ofText_of_denotes h, ?_, ?_, ?_, ?_, fun t h => ofText_of_not_denotes h, ?_,
    ?_, rfl, fun _ => rfl⟩
  · intro negative c e
    exact ofText_of_denotes (Decimal.denotes_toText negative c e)
  · intro negative c e h
    exact not_inRange_of_powerLimit_lt h negative
  · intro negative c e h
    exact ⟨Decimal.truncation_rational negative c e, integerPart_of_le_powerLimit h⟩
  · intro n
    exact ⟨hint n, hwrites n _ (Text.writes_ofInt n), hwrites n⟩
  · intro negative
    exact ofText_of_not_denotes (Decimal.not_denotes_toText_infinite negative)
  · intro negative signaling payload
    exact ofText_of_not_denotes (Decimal.not_denotes_toText_nan negative signaling payload)

/-- A fraction, numbers at both sides of the look at the first digit, a spelling, and a word. -/
theorem ofValue_of_spellings :
    ofValue (.text "29e-1") = 2 ∧
      ¬ (1 ≤ truncation (Decimal.rational false 1 19) ∧
        truncation (Decimal.rational false 1 19) ≤ 2 ^ 63 - 1) ∧
      Decimal.integerPart 93 17 < 10 ^ 19 ∧
      ofValue (.text " +09_223_372_036_854_775_807 ") = 2 ^ 63 - 1 ∧
      ofValue (.text "nan") = 0 := by
  rcases ofValue_truncates with ⟨htext, _, hguard, hshort, hint, hother, _⟩
  refine ⟨?_, hguard false 1 19 (by decide), (hshort false 93 17 (by decide)).2, ?_, ?_⟩
  · have hdenotes : Text.Denotes "29e-1" (Decimal.rational false 29 (-1)) :=
      (Text.denotes_iff _ _).mpr ⟨false, 29, -1, by decide +kernel, rfl⟩
    rw [htext _ _ hdenotes, ofRational_eq_ofInt, Decimal.truncation_rational]
    decide
  · have hblank : ∀ c ∈ (" " : Text), c.isBlank = true := by
      intro c hc
      rw [List.mem_singleton.mp hc]
      rfl
    have hdigits : ("+09_223_372_036_854_775_807" : Text).filter (· ≠ ('_' : CodePoint)) =
        [('+' : CodePoint)] ++
          (List.replicate 1 ('0' : CodePoint) ++ Text.ofNat 9223372036854775807) := by
      decide +kernel
    have hwrites : Text.Writes
        ((" " : Text) ++ (("+09_223_372_036_854_775_807" : Text) ++ (" " : Text)))
        9223372036854775807 :=
      .mk hblank hblank .plus hdigits
    exact (hint 9223372036854775807).2.2 _ hwrites
  · apply hother
    intro x hdenotes
    rcases (Text.denotes_iff _ _).mp hdenotes with ⟨negative, c, e, hread, _⟩
    have hnan : Decimal.ofText? "nan" = some (.nan false false 0) := by
      decide +kernel
    cases hnan.symm.trans hread

end Counter
end TunnelBoard
