import TunnelBoard.Proofs.Number.FloatingLiterals
import TunnelBoard.Proofs.Text.Scripts

/-!
# Literals in any script

A text is a literal if and only if it is one when it is written in ASCII: its digits
become digits, and its marks and words stay as they are.
-/

namespace TunnelBoard
namespace Binary64

theorem digitPart_asciiNumeral (t : Text) :
    DigitPart CodePoint.isAsciiDigit t.asciiNumeral ↔ DigitPart CodePoint.isDigit t := by
  rw [Text.asciiNumeral_eq_map]
  have hunderscore : ∀ c : CodePoint, c.inNumeral = '_' ↔ c = '_' := fun c =>
    CodePoint.inNumeral_eq_iff ⟨by decide, by decide, rfl, by decide⟩
  constructor
  · intro h
    generalize hs : t.map CodePoint.inNumeral = s at h
    induction h generalizing t with
    | last hc =>
        rcases List.map_eq_singleton_iff.mp hs with ⟨d, ht, hd⟩
        rw [← hd, CodePoint.isAsciiDigit_inNumeral] at hc
        rw [ht]
        exact .last hc
    | next hc _ ih =>
        rcases List.map_eq_cons_iff.mp hs with ⟨d, rest, ht, hd, hrest⟩
        rw [← hd, CodePoint.isAsciiDigit_inNumeral] at hc
        rw [ht]
        exact .next hc (ih rest hrest)
    | spaced hc _ ih =>
        rcases List.map_eq_cons_iff.mp hs with ⟨d, tail, ht, hd, htail⟩
        rcases List.map_eq_cons_iff.mp htail with ⟨e, rest, htail, he, hrest⟩
        rw [← hd, CodePoint.isAsciiDigit_inNumeral] at hc
        rw [ht, htail, (hunderscore e).mp he]
        exact .spaced hc (ih rest hrest)
  · intro h
    induction h with
    | @last c hc =>
        rw [← CodePoint.isAsciiDigit_inNumeral] at hc
        exact .last hc
    | @next c rest hc _ ih =>
        rw [← CodePoint.isAsciiDigit_inNumeral] at hc
        exact .next hc ih
    | @spaced c rest hc _ ih =>
        rw [← CodePoint.isAsciiDigit_inNumeral] at hc
        rw [List.map_cons, List.map_cons, (hunderscore '_').mpr rfl]
        exact .spaced hc ih

theorem isMark_of_sign {sign : Text} {negative : Bool} (h : Decimal.Sign sign negative) :
    ∀ c ∈ sign, c.IsMark := by
  cases h with
  | none => exact List.forall_mem_nil _
  | plus => exact List.forall_mem_singleton.mpr ⟨by decide, by decide, rfl, by decide⟩
  | minus => exact List.forall_mem_singleton.mpr ⟨by decide, by decide, rfl, by decide⟩

theorem isMark_of_isAsciiLetter {c : CodePoint} (h : c.isAsciiLetter = true) : c.IsMark := by
  have hdigit := (of_isAsciiLetter h).1
  have hne : c ≠ '?' := fun heq => absurd h (heq ▸ by decide)
  simp only [CodePoint.isAsciiLetter, Bool.or_eq_true, Bool.and_eq_true, decide_eq_true_eq] at h
  exact ⟨by omega, by omega, hdigit, hne⟩

theorem isMark_point : ∀ c ∈ ([('.' : CodePoint)] : Text), c.IsMark :=
  List.forall_mem_singleton.mpr ⟨by decide, by decide, rfl, by decide⟩

theorem number_asciiNumeral (t : Text) :
    Number CodePoint.isAsciiDigit t.asciiNumeral ↔ Number CodePoint.isDigit t := by
  constructor
  · intro h
    generalize hs : t.asciiNumeral = s at h
    cases h with
    | @whole whole point isWhole isPoint =>
        rcases Text.asciiNumeral_eq_append hs with ⟨before, after, ht, hbefore, hafter⟩
        rw [ht]
        refine .whole ((digitPart_asciiNumeral before).mp (hbefore ▸ isWhole)) ?_
        rcases isPoint with hpoint | hpoint
        · rw [hpoint] at hafter
          exact .inl (List.map_eq_nil_iff.mp hafter)
        · rw [hpoint] at hafter
          exact .inr ((Text.asciiNumeral_eq_iff isMark_point).mp hafter)
    | @fraction whole fraction isWhole isFraction =>
        rcases Text.asciiNumeral_eq_append hs with ⟨before, behind, ht, hbefore, hbehind⟩
        rcases Text.asciiNumeral_eq_append (s := [('.' : CodePoint)]) hbehind with
          ⟨point, after, hsplit, hpoint, hafter⟩
        rw [ht, hsplit, (Text.asciiNumeral_eq_iff isMark_point).mp hpoint]
        refine .fraction ?_ ((digitPart_asciiNumeral after).mp (hafter ▸ isFraction))
        rcases isWhole with hwhole | hwhole
        · rw [hwhole] at hbefore
          exact .inl (List.map_eq_nil_iff.mp hbefore)
        · exact .inr ((digitPart_asciiNumeral before).mp (hbefore ▸ hwhole))
  · intro h
    cases h with
    | @whole whole point isWhole isPoint =>
        rw [Text.asciiNumeral_append]
        refine .whole ((digitPart_asciiNumeral whole).mpr isWhole) ?_
        rcases isPoint with hpoint | hpoint
        · exact .inl (by rw [hpoint]; rfl)
        · exact .inr ((Text.asciiNumeral_eq_iff isMark_point).mpr hpoint)
    | @fraction whole fraction isWhole isFraction =>
        have hpoint := (Text.asciiNumeral_eq_iff isMark_point).mpr rfl
        rw [← List.singleton_append, Text.asciiNumeral_append, Text.asciiNumeral_append, hpoint]
        refine .fraction ?_ ((digitPart_asciiNumeral fraction).mpr isFraction)
        rcases isWhole with hwhole | hwhole
        · exact .inl (by rw [hwhole]; rfl)
        · exact .inr ((digitPart_asciiNumeral whole).mpr hwhole)

theorem exponent_asciiNumeral (t : Text) :
    Exponent CodePoint.isAsciiDigit t.asciiNumeral ↔ Exponent CodePoint.isDigit t := by
  have hmark : ∀ mark : CodePoint, mark = 'e' ∨ mark = 'E' → mark.IsMark := by
    intro mark h
    apply isMark_of_isAsciiLetter
    rcases h with h | h <;> subst h <;> rfl
  constructor
  · intro h
    generalize hs : t.asciiNumeral = s at h
    cases h with
    | none =>
        rw [List.map_eq_nil_iff.mp hs]
        exact .none
    | @mark mark sign digits negative isMark isSign isDigits =>
        rcases Text.asciiNumeral_eq_append (s := [mark]) hs with
          ⟨first, behind, ht, hfirst, hbehind⟩
        rcases Text.asciiNumeral_eq_append hbehind with ⟨before, after, hsplit, hbefore, hafter⟩
        have hmarks := List.forall_mem_singleton.mpr (hmark mark isMark)
        rw [ht, hsplit, (Text.asciiNumeral_eq_iff hmarks).mp hfirst,
          (Text.asciiNumeral_eq_iff (isMark_of_sign isSign)).mp hbefore, List.singleton_append]
        exact .mark isMark isSign ((digitPart_asciiNumeral after).mp (hafter ▸ isDigits))
  · intro h
    cases h with
    | none => exact .none
    | @mark mark sign digits negative isMark isSign isDigits =>
        have hmarks := List.forall_mem_singleton.mpr (hmark mark isMark)
        rw [← List.singleton_append, Text.asciiNumeral_append, Text.asciiNumeral_append,
          (Text.asciiNumeral_eq_iff hmarks).mpr rfl,
          (Text.asciiNumeral_eq_iff (isMark_of_sign isSign)).mpr rfl, List.singleton_append]
        exact .mark isMark isSign ((digitPart_asciiNumeral digits).mpr isDigits)

theorem literal_asciiNumeral (t : Text) :
    Literal CodePoint.isAsciiDigit t.asciiNumeral ↔ Literal CodePoint.isDigit t := by
  have hword : ∀ word : Text, word.asciiLower ∈ words → ∀ c ∈ word, c.IsMark :=
    fun _ h c hc => isMark_of_isAsciiLetter (isAsciiLetter_of_word h c hc)
  constructor
  · intro h
    generalize hs : t.asciiNumeral = s at h
    cases h with
    | @number sign number exponent negative isSign isNumber isExponent =>
        rcases Text.asciiNumeral_eq_append hs with ⟨before, behind, ht, hbefore, hbehind⟩
        rcases Text.asciiNumeral_eq_append hbehind with ⟨middle, after, hsplit, hmiddle, hafter⟩
        rw [ht, hsplit, (Text.asciiNumeral_eq_iff (isMark_of_sign isSign)).mp hbefore]
        exact .number isSign ((number_asciiNumeral middle).mp (hmiddle ▸ isNumber))
          ((exponent_asciiNumeral after).mp (hafter ▸ isExponent))
    | @word sign word negative isSign isWord =>
        rcases Text.asciiNumeral_eq_append hs with ⟨before, behind, ht, hbefore, hbehind⟩
        rw [ht, (Text.asciiNumeral_eq_iff (isMark_of_sign isSign)).mp hbefore,
          (Text.asciiNumeral_eq_iff (hword word isWord)).mp hbehind]
        exact .word isSign isWord
  · intro h
    cases h with
    | @number sign number exponent negative isSign isNumber isExponent =>
        rw [Text.asciiNumeral_append, Text.asciiNumeral_append,
          (Text.asciiNumeral_eq_iff (isMark_of_sign isSign)).mpr rfl]
        exact .number isSign ((number_asciiNumeral number).mpr isNumber)
          ((exponent_asciiNumeral exponent).mpr isExponent)
    | @word sign word negative isSign isWord =>
        rw [Text.asciiNumeral_append, (Text.asciiNumeral_eq_iff (isMark_of_sign isSign)).mpr rfl,
          (Text.asciiNumeral_eq_iff (hword word isWord)).mpr rfl]
        exact .word isSign isWord

/-- A trimmed text is read as a number if and only if it is a literal. -/
theorem isSome_ofText?_iff {t : Text} (h : t.IsTrimmed) :
    (ofText? t).isSome = true ↔ Literal CodePoint.isDigit t := by
  rw [ofText?, isSome_ofNumeral?_iff, Text.trimNumeral_asciiNumeral h, literal_asciiNumeral]

end Binary64
end TunnelBoard
