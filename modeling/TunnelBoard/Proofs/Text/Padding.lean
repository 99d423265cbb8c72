import TunnelBoard.Proofs.Text.SmallLetters

/-!
# Blanks around a text

Blanks at both ends of a text make no difference to what is left when it is trimmed.
They have no case and are not passed over where the neighbours of a letter are looked
at, so trimming and lower-casing can be done in either order.
-/

namespace TunnelBoard

/-!
# Blanks and case
-/

namespace CodePoint

/-- A code point that is left as it is by lower-casing and never decides how a letter is. -/
def HasNoCase (c : CodePoint) : Prop :=
  c.IsSmall ∧ c.isCased = false ∧ c.isCaseIgnorable = false

instance (c : CodePoint) : Decidable c.HasNoCase :=
  inferInstanceAs (Decidable (_ ∧ _))

end CodePoint

theorem CodePoint.hasNoCase_of_isBlank {c : CodePoint} (h : c.isBlank = true) : c.HasNoCase := by
  have hcheck : (Text.blankRanges.all fun range =>
      (List.range' range.1 (range.2 + 1 - range.1)).all fun n =>
        decide (CodePoint.HasNoCase (Fin.ofNat 0x110000 n))) = true := by
    decide +kernel
  exact of_decide_eq_true (Text.Ranges.of_contains (fun c => decide c.HasNoCase) hcheck h)

namespace Text

section

variable {before after : Text}

theorem lowerAfter_append_of_blanks (hbefore : ∀ c ∈ before, c.isBlank = true) (t : Text) :
    lowerAfter false (before ++ t) = before ++ lowerAfter false t := by
  induction before with
  | nil => rfl
  | cons c rest ih =>
      rw [List.forall_mem_cons] at hbefore
      rcases CodePoint.hasNoCase_of_isBlank hbefore.1 with ⟨⟨hsigma, hlower⟩, hcased, hpassed⟩
      rw [List.cons_append, lowerAfter, if_neg hsigma, hlower, hpassed, hcased,
        if_neg Bool.false_ne_true, ih hbefore.2]
      rfl

theorem startsCased_append_blanks (hafter : ∀ c ∈ after, c.isBlank = true) (t : Text) :
    startsCased (t ++ after) = startsCased t := by
  induction t with
  | nil =>
      cases after with
      | nil => rfl
      | cons c rest =>
          rcases CodePoint.hasNoCase_of_isBlank (hafter c List.mem_cons_self) with
            ⟨_, hcased, hpassed⟩
          show startsCased (c :: rest) = false
          rw [startsCased, hpassed, if_neg Bool.false_ne_true, hcased]
  | cons c rest ih => rw [List.cons_append, startsCased, startsCased, ih]

theorem lowerAfter_append_blanks (hafter : ∀ c ∈ after, c.isBlank = true) (cased : Bool)
    (t : Text) : lowerAfter cased (t ++ after) = lowerAfter cased t ++ after := by
  induction t generalizing cased with
  | nil =>
      exact lowerAfter_eq_self cased fun c hc =>
        (CodePoint.hasNoCase_of_isBlank (hafter c hc)).1
  | cons c rest ih =>
      rw [List.cons_append, lowerAfter, lowerAfter, startsCased_append_blanks hafter, ih,
        List.append_assoc]

theorem lower_padded (hbefore : ∀ c ∈ before, c.isBlank = true)
    (hafter : ∀ c ∈ after, c.isBlank = true) (t : Text) :
    lower (before ++ (t ++ after)) = before ++ (t.lower ++ after) := by
  rw [lower, lowerAfter_append_of_blanks hbefore, lowerAfter_append_blanks hafter, ← lower]

end

/-!
# Trimming
-/

theorem exists_eq_padded_trim (t : Text) :
    ∃ before after : Text, t = before ++ (t.trim ++ after) ∧
      (∀ c ∈ before, c.isBlank = true) ∧ ∀ c ∈ after, c.isBlank = true := by
  rcases exists_eq_dropWhileEnd_append CodePoint.isBlank (t.dropWhile CodePoint.isBlank) with
    ⟨after, happend, hafter⟩
  refine ⟨t.takeWhile CodePoint.isBlank, after, ?_, ?_, hafter⟩
  · rw [trim, ← happend, List.takeWhile_append_dropWhile]
  · exact List.all_eq_true.mp List.all_takeWhile

theorem trim_eq_nil_iff (t : Text) : t.trim = [] ↔ ∀ c ∈ t, c.isBlank = true := by
  constructor
  · intro h c hc
    rcases exists_eq_padded_trim t with ⟨before, after, ht, hbefore, hafter⟩
    rw [ht, h, List.nil_append] at hc
    exact (List.mem_append.mp hc).elim (hbefore c) (hafter c)
  · intro h
    have hpadded : trim (t ++ ([] ++ [])) = trim [] := trim_padded h (List.forall_mem_nil _) []
    rwa [List.append_nil, List.append_nil] at hpadded

theorem lower_eq_nil_iff (t : Text) : t.lower = [] ↔ t = [] := by
  cases t with
  | nil => exact Iff.rfl
  | cons c rest =>
      rcases lowerAfter_cons false c rest with ⟨small, hne, _, heq⟩
      rw [lower, heq, List.append_eq_nil_iff]
      exact iff_of_false (fun h => hne h.1) (List.cons_ne_nil c rest)

theorem trim_lower (t : Text) : t.lower.trim = t.trim.lower := by
  rcases exists_eq_padded_trim t with ⟨before, after, ht, hbefore, hafter⟩
  calc t.lower.trim
      = trim (before ++ (t.trim.lower ++ after)) := by
        rw [← lower_padded hbefore hafter, ← ht]
    _ = t.trim.lower.trim := trim_padded hbefore hafter _
    _ = t.trim.lower := trim_eq_self (isTrimmed_lower (isTrimmed_trim t))

end Text
end TunnelBoard
