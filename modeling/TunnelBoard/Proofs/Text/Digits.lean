import TunnelBoard.Number.Decimal

/-!
# Digits read back

The digits in which a number is written are the digits that are read, and their
value is the number.
-/

namespace TunnelBoard
namespace Text

/-!
# Decimal digits
-/

/-- The values of the decimal digits of a number, most significant first. -/
def digitsOf (n : Nat) : List Nat := (Nat.toDigits 10 n).map fun char => char.toNat - 48

theorem digitsValue_digitsOf (n : Nat) : digitsValue (digitsOf n) = n := by
  rw [digitsValue, digitsOf, List.foldl_map]
  exact Nat.ofDigitChars_ten_toDigits

theorem length_digitsOf_le {n limit : Nat} (hlimit : 0 < limit) (h : n < Nat.pow 10 limit) :
    (digitsOf n).length ≤ limit := by
  rw [digitsOf, List.length_map]
  exact (Nat.length_toDigits_le_iff (by decide) hlimit).mpr h

/-- A positive number does not start with a zero. -/
theorem digitsOf_eq_cons {n : Nat} (h : 0 < n) :
    ∃ d rest, digitsOf n = (d + 1) :: rest := by
  induction n using Nat.strongRecOn with
  | ind n ih =>
      rw [digitsOf, Nat.toDigits_eq_if (by decide)]
      split
      · rename_i hsmall
        refine ⟨n - 1, [], ?_⟩
        rw [List.map_singleton, Nat.toNat_digitChar_sub_48_of_lt_ten hsmall]
        congr 1
        omega
      · rename_i hlarge
        rcases ih (n / 10) (Nat.div_lt_self h (by decide)) (by omega) with ⟨d, rest, hrest⟩
        refine ⟨d, rest ++ [(n % 10).digitChar.toNat - 48], ?_⟩
        rw [List.map_append, ← digitsOf, hrest]
        rfl

theorem asciiDigit?_ofChar {char : Char} (h : char.isDigit) :
    CodePoint.asciiDigit? (CodePoint.ofChar char) = some (char.toNat - 48) := by
  have hrange : 48 ≤ char.toNat ∧ char.toNat ≤ 57 := by
    simpa [Char.isDigit, UInt32.le_iff_toNat_le] using h
  have hdigit : CodePoint.isAsciiDigit (CodePoint.ofChar char) = true := by
    show (decide (48 ≤ char.toNat) && decide (char.toNat ≤ 57)) = true
    simpa using hrange
  rw [CodePoint.asciiDigit?, hdigit]
  rfl

theorem isAsciiDigit_of_asciiDigit? {c : CodePoint} {d : Nat} (h : c.asciiDigit? = some d) :
    c.isAsciiDigit = true := by
  unfold CodePoint.asciiDigit? at h
  split at h
  · assumption
  · cases h

theorem isAsciiDigit_of_mem_ofNat {n : Nat} {c : CodePoint} (h : c ∈ ofNat n) :
    c.isAsciiDigit = true := by
  rcases List.mem_map.mp h with ⟨char, hmem, hchar⟩
  subst hchar
  exact isAsciiDigit_of_asciiDigit?
    (asciiDigit?_ofChar (Nat.isDigit_of_mem_toDigits (by decide) (by decide) hmem))

theorem isAscii_ofNat (n : Nat) : (ofNat n).isAscii = true := by
  apply List.all_eq_true.mpr
  intro c hc
  have hdigit := isAsciiDigit_of_mem_ofNat hc
  simp only [CodePoint.isAsciiDigit, Bool.and_eq_true, decide_eq_true_eq] at hdigit
  simp only [CodePoint.isAscii, decide_eq_true_eq]
  omega

theorem isAscii_ofInt (n : Int) : (ofInt n).isAscii = true := by
  unfold ofInt
  split
  · exact isAscii_ofNat n.natAbs
  · exact isAscii_ofNat n.natAbs

theorem filterMap_asciiDigit?_ofNat (n : Nat) :
    (ofNat n).filterMap CodePoint.asciiDigit? = digitsOf n := by
  have hall : ∀ chars : List Char, (∀ char ∈ chars, char.isDigit) →
      (chars.map CodePoint.ofChar).filterMap CodePoint.asciiDigit? =
        chars.map fun char => char.toNat - 48 := by
    intro chars hchars
    induction chars with
    | nil => rfl
    | cons char rest ih =>
        rw [List.map_cons,
          List.filterMap_cons_some (asciiDigit?_ofChar (hchars char List.mem_cons_self)),
          ih fun other hother => hchars other (List.mem_cons_of_mem _ hother)]
        rfl
  exact hall _ fun char hmem => Nat.isDigit_of_mem_toDigits (by decide) (by decide) hmem

/-- What stands behind a numeral does not go on with a digit. -/
def EndsDigits (rest : Text) : Prop := ∀ c ∈ rest.head?, c.isAsciiDigit = false

/-- The values of the digits in a text. -/
def digitValues (t : Text) : List Nat := t.filterMap CodePoint.asciiDigit?

theorem takeDigits_append {digits rest : Text} (hdigits : ∀ c ∈ digits, c.isAsciiDigit = true)
    (hrest : EndsDigits rest) :
    Decimal.takeDigits (digits ++ rest) = (digits.digitValues, rest) := by
  have hstop : rest.takeWhile CodePoint.isAsciiDigit = [] ∧
      rest.dropWhile CodePoint.isAsciiDigit = rest := by
    cases rest with
    | nil => exact ⟨rfl, rfl⟩
    | cons c tail =>
        have hc := hrest c rfl
        exact ⟨by simp [hc], by simp [hc]⟩
  rw [Decimal.takeDigits, List.takeWhile_append_of_pos hdigits,
    List.dropWhile_append_of_pos hdigits, hstop.1, hstop.2, List.append_nil]
  rfl

theorem takeDigits_ofNat_append (n : Nat) {rest : Text} (h : EndsDigits rest) :
    Decimal.takeDigits (ofNat n ++ rest) = (digitsOf n, rest) := by
  rw [takeDigits_append (fun c => isAsciiDigit_of_mem_ofNat) h, digitValues,
    filterMap_asciiDigit?_ofNat]

/-!
# Hexadecimal digits
-/

/-- The hexadecimal digit of a number below sixteen. -/
def hexDigit (d : Nat) : CodePoint := CodePoint.ofChar d.digitChar

theorem hexDigit?_hexDigit {d : Nat} (h : d < 16) : (hexDigit d).hexDigit? = some d := by
  have hall : ∀ d < 16, (hexDigit d).hexDigit? = some d := by decide
  exact hall d h

theorem ofHex_four {n : Nat} (h : n < 0x10000) :
    ofHex 4 n =
      [hexDigit (n / 0x1000), hexDigit (n / 0x100 % 16), hexDigit (n / 0x10 % 16),
        hexDigit (n % 16)] := by
  have hshort : ∀ m < 16, Nat.toDigits 16 m = [m.digitChar] := fun m =>
    Nat.toDigits_of_lt_base
  have hlong : ∀ m, 16 ≤ m → Nat.toDigits 16 m = Nat.toDigits 16 (m / 16) ++ [(m % 16).digitChar] :=
    fun m => Nat.toDigits_of_base_le (by decide)
  -- The digits that are missing are zeros, so there is one case for each number of digits.
  by_cases h₁ : n < 0x10
  · rw [ofHex, hshort n h₁, show n / 0x1000 = 0 by omega, show n / 0x100 % 16 = 0 by omega,
      show n / 0x10 % 16 = 0 by omega, show n % 16 = n by omega]
    rfl
  · by_cases h₂ : n < 0x100
    · rw [ofHex, hlong n (by omega), hshort (n / 16) (by omega), show n / 0x1000 = 0 by omega,
        show n / 0x100 % 16 = 0 by omega, show n / 0x10 % 16 = n / 16 by omega]
      rfl
    · by_cases h₃ : n < 0x1000
      · rw [ofHex, hlong n (by omega), hlong (n / 16) (by omega), hshort (n / 16 / 16) (by omega),
          show n / 0x1000 = 0 by omega, show n / 0x100 % 16 = n / 16 / 16 by omega]
        rfl
      · rw [ofHex, hlong n (by omega), hlong (n / 16) (by omega), hlong (n / 16 / 16) (by omega),
          hshort (n / 16 / 16 / 16) (by omega), show n / 0x1000 = n / 16 / 16 / 16 by omega,
          show n / 0x100 % 16 = n / 16 / 16 % 16 by omega]
        rfl

end Text

namespace Decimal

/-!
# Numbers of digits
-/

theorem digitCount_le_iff {n k : Nat} (hk : 0 < k) : digitCount n ≤ k ↔ n < Nat.pow 10 k :=
  Nat.length_toDigits_le_iff (by decide) hk

theorem digitCount_pos (n : Nat) : 0 < digitCount n := Nat.length_toDigits_pos

theorem lt_pow_digitCount (n : Nat) : n < Nat.pow 10 (digitCount n) :=
  (digitCount_le_iff (digitCount_pos n)).mp (Nat.le_refl _)

theorem pow_digitCount_pred_le {n : Nat} (h : 0 < n) : Nat.pow 10 (digitCount n - 1) ≤ n := by
  cases hcount : digitCount n - 1 with
  | zero => exact h
  | succ k =>
      apply Nat.le_of_not_lt
      intro hlt
      have hle := (digitCount_le_iff (Nat.succ_pos k)).mpr hlt
      omega

end Decimal
end TunnelBoard
