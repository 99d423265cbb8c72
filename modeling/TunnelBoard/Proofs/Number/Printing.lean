import TunnelBoard.Proofs.Number.Literals
import TunnelBoard.Proofs.Text.SmallLetters

/-!
# Texts of numbers

The text of a decimal number is a literal that denotes the number, and the text of
a value that is no finite number is no literal.  An integer can be written with
blanks, underscores and zeros that make no difference.
-/

namespace TunnelBoard
namespace Decimal

/-!
# Code points of literals

A literal has no blanks and no underscores, so reading it does not change it.
-/

/-- The code points that a literal is made of. -/
def IsLiteralPoint (c : CodePoint) : Prop :=
  c.isAsciiDigit = true ∨ c ∈ (['+', '-', '.', 'e', 'E'] : List CodePoint)

instance (c : CodePoint) : Decidable (IsLiteralPoint c) :=
  inferInstanceAs (Decidable (_ ∨ _))

/-- A code point that stands for itself in a numeral. -/
structure IsPlain (c : CodePoint) : Prop where
  isAscii : c.isAscii = true
  notBlank : c.isBlank = false
  notUnderscore : c ≠ '_'

/-- The visible code points of ASCII are plain, apart from the underscore. -/
theorem isPlain_of_visible {c : CodePoint} (hlow : 0x20 < c.val) (hhigh : c.val < 0x7F)
    (hne : c ≠ '_') : IsPlain c := by
  have hcontrols : ¬ c.val ≤ 0xD := by omega
  have hspace : ¬ c.val ≤ 0x20 := by omega
  have hnext : c.val ≤ 0x85 := by omega
  have hbefore : ¬ 0x85 ≤ c.val := by omega
  have hblank : c.isBlank = false := by
    simp [CodePoint.isBlank, Text.blankRanges, Text.Ranges.contains, hcontrols, hspace, hnext,
      hbefore]
  exact ⟨decide_eq_true (Nat.lt_succ_of_lt hhigh), hblank, hne⟩

theorem isPlain_of_isAsciiDigit {c : CodePoint} (h : c.isAsciiDigit = true) : IsPlain c := by
  simp only [CodePoint.isAsciiDigit, Bool.and_eq_true, decide_eq_true_eq] at h
  apply isPlain_of_visible (by omega) (by omega)
  intro hc
  subst hc
  exact absurd h.2 (by decide)

/-- A word of plain code points, as a check. -/
theorem isPlain_of_all {t : Text}
    (h : t.all (fun c => 0x20 < c.val && c.val < 0x7F && c ≠ '_') = true) :
    ∀ c ∈ t, IsPlain c := by
  intro c hc
  have hvisible := List.all_eq_true.mp h c hc
  simp only [Bool.and_eq_true, decide_eq_true_eq] at hvisible
  exact isPlain_of_visible hvisible.1.1 hvisible.1.2 hvisible.2

theorem isPlain_of_isLiteralPoint {c : CodePoint} (h : IsLiteralPoint c) : IsPlain c := by
  rcases h with hdigit | hmark
  · exact isPlain_of_isAsciiDigit hdigit
  · simp only [List.mem_cons, List.not_mem_nil, or_false] at hmark
    rcases hmark with h | h | h | h | h <;> subst h <;> exact ⟨rfl, rfl, by decide⟩

theorem isLiteralPoint_of_sign {sign : Text} {negative : Bool} (h : Sign sign negative) :
    ∀ c ∈ sign, IsLiteralPoint c := by
  intro c hc
  cases h with
  | none => cases hc
  | plus =>
      rw [List.mem_singleton.mp hc]
      exact .inr (by decide)
  | minus =>
      rw [List.mem_singleton.mp hc]
      exact .inr (by decide)

theorem isLiteralPoint_of_literal {t : Text} {x : ℚ} (h : Literal t x) :
    ∀ c ∈ t, IsLiteralPoint c := by
  cases h with
  | @mk sign whole point fraction power negative exponent isSign isWhole isFraction nonempty
      isPower =>
      intro c hc
      simp only [List.mem_append] at hc
      rcases hc with hc | hc | hc | hc
      · exact isLiteralPoint_of_sign isSign c hc
      · exact .inl (isWhole c hc)
      · cases isFraction with
        | none => cases hc
        | point isDigits =>
            rcases List.mem_cons.mp hc with hc | hc
            · exact .inr (by simp [hc])
            · exact .inl (isDigits c hc)
      · cases isPower with
        | none => cases hc
        | mark isMark isSign isDigits nonempty =>
            rcases List.mem_cons.mp hc with hc | hc
            · subst hc
              rcases isMark with h | h <;> exact .inr (by simp [h])
            · rcases List.mem_append.mp hc with hc | hc
              · exact isLiteralPoint_of_sign isSign c hc
              · exact .inl (isDigits c hc)

theorem prepare?_eq_some {t numeral : Text} (h : t.trim.filter (· ≠ ('_' : CodePoint)) = numeral)
    (hnumeral : ∀ c ∈ numeral, c.isAscii = true) : prepare? t = some numeral := by
  rw [prepare?, h]
  clear h
  induction numeral with
  | nil => rfl
  | cons c rest ih =>
      rw [List.mapM_cons, if_pos (hnumeral c List.mem_cons_self),
        ih fun d hd => hnumeral d (List.mem_cons_of_mem c hd)]
      rfl

theorem prepare?_eq_self {t : Text} (h : ∀ c ∈ t, IsPlain c) : prepare? t = some t := by
  have htrim : t.trim = t := by
    apply Text.trim_eq_self
    constructor
    · intro c hc
      exact (h c (List.mem_of_mem_head? hc)).notBlank
    · intro c hc
      exact (h c (List.mem_of_getLast? hc)).notBlank
  apply prepare?_eq_some _ fun c hc => (h c hc).isAscii
  rw [htrim, List.filter_eq_self]
  intro c hc
  exact decide_eq_true (h c hc).notUnderscore

theorem denotes_of_literal {t : Text} {x : ℚ} (h : Literal t x) : t.Denotes x := by
  have hplain : ∀ c ∈ t, IsPlain c := fun c hc =>
    isPlain_of_isLiteralPoint (isLiteralPoint_of_literal h c hc)
  exact ⟨t, prepare?_eq_self hplain, h⟩

/-- A text with another code point than those of a literal denotes no number. -/
theorem not_denotes_of_mem {t : Text} (h : ∀ c ∈ t, IsPlain c) {c : CodePoint} (hc : c ∈ t)
    (hother : ¬ IsLiteralPoint c) (x : ℚ) : ¬ t.Denotes x := by
  intro hdenotes
  rcases hdenotes with ⟨numeral, hprepare, hliteral⟩
  rw [prepare?_eq_self h] at hprepare
  cases hprepare
  exact hother (isLiteralPoint_of_literal hliteral c hc)

/-!
# Digits of numbers
-/

theorem isDigits_ofNat (n : Nat) : IsDigits (Text.ofNat n) :=
  fun _ => Text.isAsciiDigit_of_mem_ofNat

theorem valueOf_ofNat (n : Nat) : valueOf (Text.ofNat n) = n := by
  rw [valueOf, Text.digitValues, Text.filterMap_asciiDigit?_ofNat, Text.digitsValue_digitsOf]

theorem length_ofNat (n : Nat) : (Text.ofNat n).length = digitCount n := List.length_map _

theorem ofNat_ne_nil (n : Nat) : Text.ofNat n ≠ [] := by
  intro h
  have hlength := length_ofNat n
  rw [h] at hlength
  exact absurd hlength.symm (digitCount_pos n).ne'

theorem isDigits_append {s t : Text} (hs : IsDigits s) (ht : IsDigits t) : IsDigits (s ++ t) := by
  intro c hc
  rcases List.mem_append.mp hc with hc | hc
  · exact hs c hc
  · exact ht c hc

theorem isDigits_zeros (k : Nat) : IsDigits (List.replicate k ('0' : CodePoint)) := by
  intro c hc
  rw [List.eq_of_mem_replicate hc]
  rfl

/-- Zeros in front of digits make no difference. -/
theorem valueOf_zeros_append (k : Nat) (digits : Text) :
    valueOf (List.replicate k ('0' : CodePoint) ++ digits) = valueOf digits := by
  induction k with
  | zero => rfl
  | succ k ih => exact ih

/-!
# Texts of finite numbers
-/

theorem magnitude_digits {digits : Text} (h : IsDigits digits) (hne : digits ≠ []) :
    Magnitude digits (valueOf digits) 0 := by
  have hmagnitude := Magnitude.mk h .none (.inl hne) .none
  rw [List.append_nil, List.append_nil] at hmagnitude
  exact hmagnitude

theorem magnitude_pointed (n places : Nat) :
    Magnitude (pointed (Text.ofNat n) places) n (-places) := by
  unfold pointed
  generalize hzeros : List.replicate (places + 1 - (Text.ofNat n).length) ('0' : CodePoint) = zeros
  have hdigits : IsDigits (zeros ++ Text.ofNat n) :=
    isDigits_append (hzeros ▸ isDigits_zeros _) (isDigits_ofNat n)
  have hvalue : valueOf (zeros ++ Text.ofNat n) = n := by
    rw [← hzeros, valueOf_zeros_append, valueOf_ofNat]
  have hlength : places + 1 ≤ (zeros ++ Text.ofNat n).length := by
    rw [← hzeros, List.length_append, List.length_replicate]
    omega
  -- From here on, it does not matter where the digits come from.
  generalize zeros ++ Text.ofNat n = digits at hdigits hvalue hlength
  have hwhole : IsDigits (digits.take (digits.length - places)) :=
    fun c hc => hdigits c (List.mem_of_mem_take hc)
  have hfraction : IsDigits (digits.drop (digits.length - places)) :=
    fun c hc => hdigits c (List.mem_of_mem_drop hc)
  have hne : digits.take (digits.length - places) ≠ [] := by
    intro hnil
    have hcount := congrArg List.length hnil
    rw [List.length_take, List.length_nil] at hcount
    omega
  have hmagnitude := Magnitude.mk hwhole (.point hfraction) (.inl hne) .none
  rw [List.take_append_drop, hvalue, List.append_nil, List.length_drop, Int.zero_sub,
    Nat.sub_sub_self (Nat.le_of_succ_le hlength)] at hmagnitude
  rw [List.append_assoc]
  exact hmagnitude

theorem power_signed (n : Int) : Power ('E' :: signed n) n := by
  have hvalue := valueOf_ofNat n.natAbs
  unfold signed Text.ofInt
  by_cases hn : n < 0
  · have hpower := Power.mark (.inr rfl) .minus (isDigits_ofNat n.natAbs) (ofNat_ne_nil n.natAbs)
    rw [if_pos rfl, hvalue, Int.ofNat_natAbs_of_nonpos hn.le, neg_neg] at hpower
    rw [if_pos hn, if_pos hn]
    exact hpower
  · have hpower := Power.mark (.inr rfl) .plus (isDigits_ofNat n.natAbs) (ofNat_ne_nil n.natAbs)
    rw [if_neg Bool.false_ne_true, hvalue, Int.natAbs_of_nonneg (not_lt.mp hn)] at hpower
    rw [if_neg hn, if_neg hn]
    exact hpower

theorem magnitude_scientific (n : Nat) (leading : Int) :
    Magnitude (scientific (Text.ofNat n) ++ "E" ++ signed leading) n
      (leading - (digitCount n - 1)) := by
  have hdigits := isDigits_ofNat n
  have hvalue := valueOf_ofNat n
  have hne := ofNat_ne_nil n
  rw [← length_ofNat, List.append_assoc]
  generalize Text.ofNat n = digits at hdigits hvalue hne
  cases digits with
  | nil => exact absurd rfl hne
  | cons c rest =>
      have hfirst : IsDigits [c] := by
        intro d hd
        rw [List.mem_singleton.mp hd]
        exact hdigits c List.mem_cons_self
      have hrest : IsDigits rest := fun d hd => hdigits d (List.mem_cons_of_mem c hd)
      have hplaces : ((c :: rest).length : Int) - 1 = rest.length := by
        rw [List.length_cons, Nat.cast_succ, add_sub_cancel_right]
      rw [hplaces, ← hvalue]
      have hpower := power_signed leading
      cases rest with
      | nil =>
          have hmagnitude := Magnitude.mk hfirst .none (.inl (List.cons_ne_nil c [])) hpower
          exact hmagnitude
      | cons d rest =>
          have hmagnitude :=
            Magnitude.mk hfirst (.point hrest) (.inl (List.cons_ne_nil c [])) hpower
          exact hmagnitude

/-- The sign in front of the text of a number. -/
def signOf (negative : Bool) : Text := ((if negative then "-" else "" : String) : Text)

theorem magnitude_toText (c : Nat) (e : Int) :
    ∃ body, (∀ negative, toText (.finite negative c e) = signOf negative ++ body) ∧
      Magnitude body c e := by
  refine ⟨_, fun negative => rfl, ?_⟩
  by_cases hzero : e = 0
  · rw [if_pos hzero, hzero]
    have hmagnitude := magnitude_digits (isDigits_ofNat c) (ofNat_ne_nil c)
    rwa [valueOf_ofNat] at hmagnitude
  · rw [if_neg hzero]
    split
    · rename_i hsmall
      have hmagnitude := magnitude_pointed c e.natAbs
      simp only [Bool.and_eq_true, decide_eq_true_eq] at hsmall
      rwa [Int.ofNat_natAbs_of_nonpos hsmall.1.le, neg_neg] at hmagnitude
    · have hmagnitude := magnitude_scientific c (leadingPower c e)
      have hpower : leadingPower c e - (digitCount c - 1) = e := by
        unfold leadingPower
        ring
      rwa [hpower] at hmagnitude

theorem denotes_toText (negative : Bool) (c : Nat) (e : Int) :
    (toText (.finite negative c e)).Denotes (rational negative c e) := by
  rcases magnitude_toText c e with ⟨body, htext, hmagnitude⟩
  have hsign : Sign (signOf negative) negative := by
    cases negative with
    | false => exact .none
    | true => exact .minus
  rw [htext]
  exact denotes_of_literal
    ((literal_iff _ _).mpr ⟨_, negative, body, c, e, rfl, hsign, hmagnitude, rfl⟩)

/-!
# Texts of other values

The word for an infinity or for what is not a number has a capital that no literal
has.
-/

theorem isPlain_signOf (negative : Bool) : ∀ c ∈ signOf negative, IsPlain c := by
  cases negative with
  | false => exact nofun
  | true => exact isPlain_of_all rfl

theorem not_denotes_toText_infinite (negative : Bool) (x : ℚ) :
    ¬ (toText (.infinite negative)).Denotes x := by
  have hword : ∀ c ∈ ("Infinity" : Text), IsPlain c := isPlain_of_all rfl
  apply not_denotes_of_mem (c := 'I')
  · exact List.forall_mem_append.mpr ⟨isPlain_signOf negative, hword⟩
  · exact List.mem_append_right _ (by decide)
  · exact fun h => absurd h (by decide)

theorem not_denotes_toText_nan (negative signaling : Bool) (payload : Nat) (x : ℚ) :
    ¬ (toText (.nan negative signaling payload)).Denotes x := by
  have hword : ∀ c ∈ ((if signaling then "sNaN" else "NaN" : String) : Text), IsPlain c := by
    cases signaling <;> exact isPlain_of_all rfl
  have hpayload : ∀ c ∈ (if payload = 0 then ([] : Text) else Text.ofNat payload), IsPlain c := by
    intro c hc
    split at hc
    · cases hc
    · exact isPlain_of_isAsciiDigit (isDigits_ofNat payload c hc)
  apply not_denotes_of_mem (c := 'N')
  · exact List.forall_mem_append.mpr
      ⟨List.forall_mem_append.mpr ⟨isPlain_signOf negative, hword⟩, hpayload⟩
  · apply List.mem_append_left
    apply List.mem_append_right
    cases signaling <;> decide
  · exact fun h => absurd h (by decide)

/-!
# Integers with what makes no difference
-/

/-- The digits of an integer behind a sign and zeros are a literal of it. -/
theorem literal_of_int {sign : Text} {n : Int} (h : Sign sign (decide (n < 0))) (zeros : Nat) :
    Literal (sign ++ (List.replicate zeros ('0' : CodePoint) ++ Text.ofNat n.natAbs)) n := by
  have hdigits := isDigits_append (isDigits_zeros zeros) (isDigits_ofNat n.natAbs)
  have hne := List.append_ne_nil_of_right_ne_nil (List.replicate zeros ('0' : CodePoint))
    (ofNat_ne_nil n.natAbs)
  have hmagnitude := magnitude_digits hdigits hne
  rw [valueOf_zeros_append, valueOf_ofNat] at hmagnitude
  exact (literal_iff _ _).mpr ⟨sign, _, _, _, _, rfl, h, hmagnitude, (rational_of_int n).symm⟩

/-- Blanks around a numeral and underscores in it are not read. -/
theorem prepare?_append {before body after : Text} (hbefore : ∀ c ∈ before, c.isBlank = true)
    (hafter : ∀ c ∈ after, c.isBlank = true)
    (hplain : ∀ c ∈ body.filter (· ≠ ('_' : CodePoint)), IsPlain c) :
    prepare? (before ++ (body ++ after)) = some (body.filter (· ≠ ('_' : CodePoint))) := by
  have hbody : ∀ c ∈ body, c.isBlank = false := by
    intro c hc
    by_cases hunderscore : c = '_'
    · rw [hunderscore]
      rfl
    · exact (hplain c (List.mem_filter.mpr ⟨hc, decide_eq_true hunderscore⟩)).notBlank
  have htrimmed : body.IsTrimmed :=
    ⟨fun c hc => hbody c (List.mem_of_mem_head? hc), fun c hc => hbody c (List.mem_of_getLast? hc)⟩
  apply prepare?_eq_some
  · rw [Text.trim_padded hbefore hafter, Text.trim_eq_self htrimmed]
  · exact fun c hc => (hplain c hc).isAscii

end Decimal

/--
A text writes an integer: it has the digits behind a sign and zeros, with
underscores anywhere among them and blanks around them.
-/
inductive Text.Writes : Text → Int → Prop where
  | mk {before body after sign : Text} {zeros : Nat} {n : Int}
      (isBefore : ∀ c ∈ before, c.isBlank = true) (isAfter : ∀ c ∈ after, c.isBlank = true)
      (isSign : Decimal.Sign sign (decide (n < 0)))
      (digits : body.filter (· ≠ ('_' : CodePoint)) =
        sign ++ (List.replicate zeros ('0' : CodePoint) ++ Text.ofNat n.natAbs)) :
      Writes (before ++ (body ++ after)) n

theorem Text.denotes_of_writes {t : Text} {n : Int} (h : Text.Writes t n) : t.Denotes n := by
  cases h with
  | @mk before body after sign zeros n isBefore isAfter isSign digits =>
      have hliteral := Decimal.literal_of_int isSign zeros
      rw [← digits] at hliteral
      have hplain : ∀ c ∈ body.filter (· ≠ ('_' : CodePoint)), Decimal.IsPlain c := fun c hc =>
        Decimal.isPlain_of_isLiteralPoint (Decimal.isLiteralPoint_of_literal hliteral c hc)
      exact ⟨_, Decimal.prepare?_append isBefore isAfter hplain, hliteral⟩

theorem Text.writes_ofInt (n : Int) : Text.Writes (Text.ofInt n) n := by
  have hsign : ∃ sign, Decimal.Sign sign (decide (n < 0)) ∧
      Text.ofInt n = sign ++ (List.replicate 0 ('0' : CodePoint) ++ Text.ofNat n.natAbs) := by
    unfold Text.ofInt
    by_cases hn : n < 0
    · rw [if_pos hn, decide_eq_true hn]
      exact ⟨['-'], .minus, rfl⟩
    · rw [if_neg hn, decide_eq_false hn]
      exact ⟨[], .none, rfl⟩
  rcases hsign with ⟨sign, hsign, htext⟩
  have hliteral := Decimal.literal_of_int hsign 0
  rw [← htext] at hliteral
  have hfilter : (Text.ofInt n).filter (· ≠ ('_' : CodePoint)) = Text.ofInt n := by
    rw [List.filter_eq_self]
    intro c hc
    have hpoint := Decimal.isLiteralPoint_of_literal hliteral c hc
    exact decide_eq_true (Decimal.isPlain_of_isLiteralPoint hpoint).notUnderscore
  have hwrites : Text.Writes ([] ++ (Text.ofInt n ++ [])) n :=
    .mk nofun nofun hsign (hfilter.trans htext)
  rw [List.nil_append, List.append_nil] at hwrites
  exact hwrites

end TunnelBoard
