import TunnelBoard.Number.Numeral
import TunnelBoard.Proofs.Text.SmallLetters

/-!
# Numerals in any script

Writing a numeral in ASCII replaces each code point by itself.  A digit of any script
becomes a digit of ASCII, the marks of numerals stay as they are, and nothing else becomes
one of them.  The blanks that are trimmed from a text cover those that may surround a
numeral.
-/

namespace TunnelBoard
namespace CodePoint

/-- The code point that stands for another in a numeral in ASCII. -/
def inNumeral (c : CodePoint) : CodePoint :=
  if c.val < 0x7F then c
  else if c.isBlank then ' '
  else c.digit?.elim '?' fun d => Fin.ofNat _ (0x30 + d)

/-- A visible code point of ASCII that is no digit and does not stand for others. -/
structure IsMark (c : CodePoint) : Prop where
  low : 0x20 < c.val
  high : c.val < 0x7F
  notDigit : c.isAsciiDigit = false
  notReplacement : c ≠ '?'

/-!
# Digits
-/

theorem digit?_lt {c : CodePoint} {d : Nat} (h : c.digit? = some d) : d < 10 := by
  rcases Option.map_eq_some_iff.mp h with ⟨range, _, hd⟩
  rw [← hd]
  exact Nat.mod_lt _ (by decide)

theorem isDigit_of_ascii {c : CodePoint} (h : c.val < 0x7F) : c.isDigit = c.isAsciiDigit := by
  have hcheck : (([(0, 0x7E)] : Text.Ranges).all fun range =>
      (List.range' range.1 (range.2 + 1 - range.1)).all fun n =>
        isDigit (Fin.ofNat 0x110000 n) == isAsciiDigit (Fin.ofNat 0x110000 n)) = true := by
    decide +kernel
  have hcontains : Text.Ranges.contains [(0, 0x7E)] c.val = true := by
    simp only [Text.Ranges.contains, if_pos (Nat.le_of_lt_succ h), Nat.zero_le, decide_true]
  exact eq_of_beq
    (Text.Ranges.of_contains (fun c => c.isDigit == c.isAsciiDigit) hcheck hcontains)

theorem isDigit_of_isBlank {c : CodePoint} (h : c.isBlank = true) : c.isDigit = false := by
  have hcheck : (Text.blankRanges.all fun range =>
      (List.range' range.1 (range.2 + 1 - range.1)).all fun n =>
        !isDigit (Fin.ofNat 0x110000 n)) = true := by
    decide +kernel
  simpa using Text.Ranges.of_contains (fun c => !c.isDigit) hcheck h

theorem isAsciiDigit_ofNat {d : Nat} (h : d < 10) :
    isAsciiDigit (Fin.ofNat 0x110000 (0x30 + d)) = true := by
  have hvalue : (Fin.ofNat 0x110000 (0x30 + d)).val = 0x30 + d := Nat.mod_eq_of_lt (by omega)
  simp only [isAsciiDigit, hvalue, Bool.and_eq_true, decide_eq_true_eq]
  omega

/-- The digits of a numeral in ASCII are those that were digits of some script. -/
theorem isAsciiDigit_inNumeral (c : CodePoint) : c.inNumeral.isAsciiDigit = c.isDigit := by
  unfold inNumeral
  by_cases hascii : c.val < 0x7F
  · rw [if_pos hascii, isDigit_of_ascii hascii]
  · rw [if_neg hascii]
    by_cases hblank : c.isBlank
    · rw [if_pos hblank, isDigit_of_isBlank hblank]
      rfl
    · rw [if_neg hblank, isDigit]
      cases hdigit : c.digit? with
      | none => rfl
      | some d => exact isAsciiDigit_ofNat (digit?_lt hdigit)

/-!
# Marks
-/

theorem inNumeral_eq_iff {c mark : CodePoint} (h : mark.IsMark) :
    c.inNumeral = mark ↔ c = mark := by
  unfold inNumeral
  by_cases hascii : c.val < 0x7F
  · rw [if_pos hascii]
  · rw [if_neg hascii]
    have hother : c ≠ mark := fun heq => hascii (heq ▸ h.high)
    refine iff_of_false ?_ hother
    by_cases hblank : c.isBlank
    · rw [if_pos hblank]
      intro heq
      exact absurd h.low (heq ▸ by decide)
    · rw [if_neg hblank]
      cases hdigit : c.digit? with
      | none => exact fun heq => h.notReplacement heq.symm
      | some d =>
          intro heq
          have hmark : mark.isAsciiDigit = true := heq ▸ isAsciiDigit_ofNat (digit?_lt hdigit)
          exact Bool.false_ne_true (h.notDigit.symm.trans hmark)

end CodePoint

namespace Text

theorem asciiNumeral_eq_map (t : Text) : t.asciiNumeral = t.map CodePoint.inNumeral := by
  unfold asciiNumeral
  apply List.map_congr_left
  intro c _
  unfold CodePoint.inNumeral
  cases c.digit? <;> rfl

theorem asciiNumeral_append (s t : Text) :
    (s ++ t).asciiNumeral = s.asciiNumeral ++ t.asciiNumeral := List.map_append

theorem asciiNumeral_eq_append {s t u : Text} (h : u.asciiNumeral = s ++ t) :
    ∃ before after : Text, u = before ++ after ∧ before.asciiNumeral = s ∧
      after.asciiNumeral = t := List.map_eq_append_iff.mp h

/-- Marks stay as they are, and nothing else becomes one. -/
theorem asciiNumeral_eq_iff {t marks : Text} (h : ∀ c ∈ marks, c.IsMark) :
    t.asciiNumeral = marks ↔ t = marks := by
  rw [asciiNumeral_eq_map]
  induction marks generalizing t with
  | nil => exact List.map_eq_nil_iff
  | cons mark rest ih =>
      rcases List.forall_mem_cons.mp h with ⟨hmark, hrest⟩
      cases t with
      | nil => simp
      | cons c tail =>
          rw [List.map_cons, List.cons.injEq, List.cons.injEq, CodePoint.inNumeral_eq_iff hmark,
            ih hrest]

/-!
# Blanks around a numeral
-/

theorem isBlank_of_isNumeralSpace {c : CodePoint} (h : isNumeralSpace c = true) :
    c.isBlank = true := by
  simp only [isNumeralSpace, Bool.or_eq_true, Bool.and_eq_true, decide_eq_true_eq] at h
  rcases h with h | ⟨hlow, hhigh⟩
  · rw [h]
    decide
  · simp only [CodePoint.isBlank, blankRanges, Ranges.contains, if_pos hhigh, decide_eq_true hlow]

theorem isNumeralSpace_of_isAsciiDigit {c : CodePoint} (h : c.isAsciiDigit = true) :
    isNumeralSpace c = false := by
  apply Bool.eq_false_iff.mpr
  intro hspace
  simp only [isNumeralSpace, Bool.or_eq_true, Bool.and_eq_true, decide_eq_true_eq] at hspace
  rcases hspace with hspace | ⟨_, hhigh⟩
  · rw [hspace] at h
    exact absurd h (by decide)
  · simp only [CodePoint.isAsciiDigit, Bool.and_eq_true, decide_eq_true_eq] at h
    omega

theorem isNumeralSpace_inNumeral {c : CodePoint} (h : c.isBlank = false) :
    isNumeralSpace c.inNumeral = false := by
  unfold CodePoint.inNumeral
  by_cases hascii : c.val < 0x7F
  · rw [if_pos hascii]
    apply Bool.eq_false_iff.mpr
    intro hspace
    exact Bool.false_ne_true (h.symm.trans (isBlank_of_isNumeralSpace hspace))
  · rw [if_neg hascii, if_neg (Bool.eq_false_iff.mp h)]
    cases hdigit : c.digit? with
    | none => decide
    | some d =>
        exact isNumeralSpace_of_isAsciiDigit
          (CodePoint.isAsciiDigit_ofNat (CodePoint.digit?_lt hdigit))

/-- A trimmed text has no spaces around it when it is written as a numeral in ASCII. -/
theorem trimNumeral_asciiNumeral {t : Text} (h : t.IsTrimmed) :
    trimNumeral t.asciiNumeral = t.asciiNumeral := by
  have hstart : t.asciiNumeral.dropWhile isNumeralSpace = t.asciiNumeral := by
    rw [asciiNumeral_eq_map]
    cases t with
    | nil => rfl
    | cons c rest =>
        have hc := isNumeralSpace_inNumeral (h.1 c rfl)
        exact List.dropWhile_cons_of_neg (by simp [hc])
  rw [trimNumeral, hstart]
  apply dropWhileEnd_eq_self
  intro c hc
  rw [asciiNumeral_eq_map, List.getLast?_map] at hc
  rcases Option.map_eq_some_iff.mp hc with ⟨last, hlast, heq⟩
  rw [← heq]
  exact isNumeralSpace_inNumeral (h.2 last hlast)

end Text
end TunnelBoard
