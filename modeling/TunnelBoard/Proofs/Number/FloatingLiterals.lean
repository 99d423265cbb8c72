import TunnelBoard.Number.Binary64Text
import TunnelBoard.Proofs.Number.Literals

/-!
# Floating point literals

A floating point literal has a sign, digits with a point among them and an exponent, or is
a word for an infinity or for no number.  Two neighbouring digits may have an underscore
between them, and the digits may be of any script.  A trimmed text is read as a number if
and only if it is a literal.
-/

namespace TunnelBoard
namespace Binary64

/-!
# Grammar
-/

section

variable (isDigit : CodePoint → Bool)

/-- Digits with at most one underscore between two neighbours. -/
inductive DigitPart : Text → Prop where
  | last {c : CodePoint} (hc : isDigit c = true) : DigitPart [c]
  | next {c : CodePoint} {rest : Text} (hc : isDigit c = true) (hrest : DigitPart rest) :
      DigitPart (c :: rest)
  | spaced {c : CodePoint} {rest : Text} (hc : isDigit c = true) (hrest : DigitPart rest) :
      DigitPart (c :: '_' :: rest)

/-- Digits with a point behind, among or before them, or without one. -/
inductive Number : Text → Prop where
  | whole {whole point : Text} (isWhole : DigitPart isDigit whole)
      (isPoint : point = [] ∨ point = [('.' : CodePoint)]) : Number (whole ++ point)
  | fraction {whole fraction : Text} (isWhole : whole = [] ∨ DigitPart isDigit whole)
      (isFraction : DigitPart isDigit fraction) : Number (whole ++ (('.' : CodePoint) :: fraction))

/-- An `e` and an integer, or nothing. -/
inductive Exponent : Text → Prop where
  | none : Exponent []
  | mark {mark : CodePoint} {sign digits : Text} {negative : Bool}
      (isMark : mark = 'e' ∨ mark = 'E') (isSign : Decimal.Sign sign negative)
      (isDigits : DigitPart isDigit digits) : Exponent (mark :: (sign ++ digits))

/-- The words for an infinity and for no number. -/
def words : List Text := ["inf", "infinity", "nan"]

/-- A literal with the digits of some scripts; its words are in letters of any case. -/
inductive Literal : Text → Prop where
  | number {sign number exponent : Text} {negative : Bool} (isSign : Decimal.Sign sign negative)
      (isNumber : Number isDigit number) (isExponent : Exponent isDigit exponent) :
      Literal (sign ++ (number ++ exponent))
  | word {sign word : Text} {negative : Bool} (isSign : Decimal.Sign sign negative)
      (isWord : word.asciiLower ∈ words) : Literal (sign ++ word)

end

end Binary64

/-!
# Underscores

An underscore is dropped between two digits and stands nowhere else, so a code point that
is no digit divides what is left in the same place as what there was.
-/

theorem CodePoint.ne_underscore_of_isAsciiDigit {c : CodePoint} (h : c.isAsciiDigit = true) :
    c ≠ '_' := by
  intro heq
  rw [heq] at h
  exact absurd h (by decide)

namespace Text

section

variable {c : CodePoint} {s t : Text}

theorem dropUnderscores?_cons (before : Option CodePoint) (hne : c ≠ '_') (s : Text) :
    dropUnderscores? before (c :: s) = (dropUnderscores? (some c) s).map (c :: ·) := by
  rw [dropUnderscores?.eq_def]
  exact if_neg hne

theorem dropUnderscores?_of_head (before : Option CodePoint) (h : ∀ c ∈ s.head?, c ≠ '_') :
    dropUnderscores? before s = dropUnderscores? none s := by
  cases s with
  | nil => rfl
  | cons c rest => rw [dropUnderscores?_cons before (h c rfl), dropUnderscores?_cons none (h c rfl)]

theorem dropUnderscores?_of_underscore (before : Option CodePoint)
    (h : before.any CodePoint.isAsciiDigit = false) (rest : Text) :
    dropUnderscores? before ('_' :: rest) = none := by
  rw [dropUnderscores?.eq_def]
  cases rest with
  | nil => rfl
  | cons d rest =>
      simp only [h, Bool.false_and]
      rfl

/-- What is left begins as the text does, and not with an underscore. -/
theorem head_of_dropUnderscores? (h : dropUnderscores? none s = some t) :
    ∀ c ∈ s.head?, c ≠ '_' := by
  intro c hc heq
  cases s with
  | nil => cases hc
  | cons d rest =>
      cases hc
      rw [heq, dropUnderscores?_of_underscore none rfl] at h
      cases h

theorem dropUnderscores?_cons_of_head (hne : c ≠ '_') (h : ∀ d ∈ s.head?, d ≠ '_') :
    dropUnderscores? none (c :: s) = (dropUnderscores? none s).map (c :: ·) := by
  rw [dropUnderscores?_cons none hne, dropUnderscores?_of_head (some c) h]

theorem dropUnderscores?_cons_of_not_digit (hne : c ≠ '_') (hc : c.isAsciiDigit = false)
    (s : Text) :
    dropUnderscores? none (c :: s) = (dropUnderscores? none s).map (c :: ·) := by
  by_cases h : ∀ d ∈ s.head?, d ≠ '_'
  · exact dropUnderscores?_cons_of_head hne h
  · cases s with
    | nil => exact absurd nofun h
    | cons d rest =>
        have hd : d = '_' := by
          apply Decidable.byContradiction
          intro hother
          apply h
          intro e he
          cases he
          exact hother
        rw [dropUnderscores?_cons none hne, hd, dropUnderscores?_of_underscore (some c) hc,
          dropUnderscores?_of_underscore none rfl, Option.map_none]

theorem dropUnderscores?_cons_spaced {d : CodePoint} (hc : c.isAsciiDigit = true)
    (hd : d.isAsciiDigit = true) (s : Text) :
    dropUnderscores? none (c :: '_' :: d :: s) =
      (dropUnderscores? none (d :: s)).map (c :: ·) := by
  have hne : c ≠ '_' := CodePoint.ne_underscore_of_isAsciiDigit hc
  have hhead : ∀ e ∈ (d :: s).head?, e ≠ '_' := by
    intro e he
    cases he
    exact CodePoint.ne_underscore_of_isAsciiDigit hd
  have hdrop : dropUnderscores? (some c) ('_' :: d :: s) =
      dropUnderscores? (some '_') (d :: s) := by
    rw [dropUnderscores?.eq_def]
    simp only [Option.any_some, hc, hd, Bool.and_self, if_true]
  rw [dropUnderscores?_cons none hne, hdrop, dropUnderscores?_of_head _ hhead]

theorem eq_nil_of_dropUnderscores? (h : dropUnderscores? none s = some []) : s = [] := by
  cases s with
  | nil => rfl
  | cons c rest =>
      rw [dropUnderscores?_cons none (head_of_dropUnderscores? h c rfl)] at h
      rcases Option.map_eq_some_iff.mp h with ⟨left, _, heq⟩
      cases heq

/-- A code point that is no digit stands where it did. -/
theorem exists_of_dropUnderscores?_cons (hc : c.isAsciiDigit = false)
    (h : dropUnderscores? none s = some (c :: t)) :
    ∃ rest, s = c :: rest ∧ dropUnderscores? none rest = some t := by
  cases s with
  | nil => cases h
  | cons d rest =>
      have hne := head_of_dropUnderscores? h d rfl
      have hfirst := h
      rw [dropUnderscores?_cons none hne] at hfirst
      rcases Option.map_eq_some_iff.mp hfirst with ⟨left, _, heq⟩
      have hd : d = c := (List.cons.inj heq).1
      subst hd
      rw [dropUnderscores?_cons_of_not_digit hne hc] at h
      rcases Option.map_eq_some_iff.mp h with ⟨left, hleft, heq⟩
      cases heq
      exact ⟨rest, rfl, hleft⟩

/-- Behind a digit an underscore may have stood, if another digit follows. -/
theorem exists_of_dropUnderscores?_digit (h : dropUnderscores? none s = some (c :: t)) :
    ∃ rest, dropUnderscores? none rest = some t ∧
      (s = c :: rest ∨
        s = c :: '_' :: rest ∧ ∃ d ∈ t.head?, d.isAsciiDigit = true) := by
  cases s with
  | nil => cases h
  | cons d rest =>
      rw [dropUnderscores?_cons none (head_of_dropUnderscores? h d rfl)] at h
      rcases Option.map_eq_some_iff.mp h with ⟨left, hdrop, heq⟩
      cases heq
      cases rest with
      | nil => exact ⟨[], hdrop, .inl rfl⟩
      | cons e more =>
          by_cases he : e = '_'
          · subst he
            rw [dropUnderscores?.eq_def] at hdrop
            cases more with
            | nil => cases hdrop
            | cons d more =>
                simp only [if_true, ite_eq_iff, reduceCtorEq, and_false, or_false,
                  Bool.and_eq_true] at hdrop
                rcases hdrop with ⟨⟨_, hd⟩, hnext⟩
                have hne : d ≠ '_' := CodePoint.ne_underscore_of_isAsciiDigit hd
                rw [dropUnderscores?_cons _ hne, ← dropUnderscores?_cons none hne] at hnext
                refine ⟨d :: more, hnext, .inr ⟨rfl, d, ?_, hd⟩⟩
                rw [dropUnderscores?_cons none hne] at hnext
                rcases Option.map_eq_some_iff.mp hnext with ⟨left, _, heq⟩
                rw [← heq]
                rfl
          · refine ⟨e :: more, ?_, .inl rfl⟩
            rw [← hdrop, dropUnderscores?_cons none he, dropUnderscores?_cons _ he]

theorem dropUnderscores?_sign {sign : Text} {negative : Bool} (h : Decimal.Sign sign negative)
    (s : Text) :
    dropUnderscores? none (sign ++ s) = (dropUnderscores? none s).map (sign ++ ·) := by
  cases h with
  | none => exact (Option.map_id_apply).symm
  | plus => exact dropUnderscores?_cons_of_not_digit (by decide) (by decide) s
  | minus => exact dropUnderscores?_cons_of_not_digit (by decide) (by decide) s

theorem exists_of_dropUnderscores?_sign {sign : Text} {negative : Bool}
    (hsign : Decimal.Sign sign negative) (h : dropUnderscores? none s = some (sign ++ t)) :
    ∃ rest, s = sign ++ rest ∧ dropUnderscores? none rest = some t := by
  cases hsign with
  | none => exact ⟨s, rfl, h⟩
  | plus => exact exists_of_dropUnderscores?_cons (by decide) h
  | minus => exact exists_of_dropUnderscores?_cons (by decide) h

end

end Text

namespace Binary64

/-!
# Digits with underscores
-/

theorem DigitPart.head {isDigit : CodePoint → Bool} {part : Text} (h : DigitPart isDigit part) :
    ∃ c rest, part = c :: rest ∧ isDigit c = true := by
  cases h with
  | last hc => exact ⟨_, _, rfl, hc⟩
  | next hc _ => exact ⟨_, _, rfl, hc⟩
  | spaced hc _ => exact ⟨_, _, rfl, hc⟩

/-- Dropping the underscores of digits leaves digits, at least one of them. -/
theorem dropUnderscores?_digitPart {part : Text}
    (h : DigitPart CodePoint.isAsciiDigit part) :
    ∃ digits, Decimal.IsDigits digits ∧ digits ≠ [] ∧
      ∀ rest : Text, (∀ c ∈ rest.head?, c ≠ '_') →
        Text.dropUnderscores? none (part ++ rest) =
          (Text.dropUnderscores? none rest).map (digits ++ ·) := by
  induction h with
  | @last c hc =>
      refine ⟨[c], ?_, List.cons_ne_nil c [], ?_⟩
      · exact List.forall_mem_singleton.mpr hc
      · intro rest hrest
        exact Text.dropUnderscores?_cons_of_head (CodePoint.ne_underscore_of_isAsciiDigit hc) hrest
  | @next c tail hc hrest ih =>
      rcases ih with ⟨digits, hdigits, _, hdrop⟩
      refine ⟨c :: digits, List.forall_mem_cons.mpr ⟨hc, hdigits⟩, List.cons_ne_nil c digits, ?_⟩
      intro rest hhead
      rcases hrest.head with ⟨d, front, htail, hd⟩
      have hstart : ∀ e ∈ (tail ++ rest).head?, e ≠ '_' := by
        intro e he
        rw [htail] at he
        cases he
        exact CodePoint.ne_underscore_of_isAsciiDigit hd
      rw [List.cons_append,
        Text.dropUnderscores?_cons_of_head (CodePoint.ne_underscore_of_isAsciiDigit hc) hstart,
        hdrop rest hhead, Option.map_map]
      rfl
  | @spaced c tail hc hrest ih =>
      rcases ih with ⟨digits, hdigits, _, hdrop⟩
      refine ⟨c :: digits, List.forall_mem_cons.mpr ⟨hc, hdigits⟩, List.cons_ne_nil c digits, ?_⟩
      intro rest hhead
      rcases hrest.head with ⟨d, front, htail, hd⟩
      rw [htail] at hdrop
      rw [htail, List.cons_append, List.cons_append, List.cons_append,
        Text.dropUnderscores?_cons_spaced hc hd, ← List.cons_append, hdrop rest hhead,
        Option.map_map]
      rfl

/-- What is left as digits was digits with underscores, which end where the digits do. -/
theorem exists_digitPart {digits s t : Text} (hdigits : Decimal.IsDigits digits)
    (hne : digits ≠ []) (ht : Text.EndsDigits t)
    (h : Text.dropUnderscores? none s = some (digits ++ t)) :
    ∃ part rest, s = part ++ rest ∧ DigitPart CodePoint.isAsciiDigit part ∧
      Text.dropUnderscores? none rest = some t := by
  induction digits generalizing s with
  | nil => exact absurd rfl hne
  | cons d tail ih =>
      rcases List.forall_mem_cons.mp hdigits with ⟨hd, htail⟩
      rw [List.cons_append] at h
      rcases Text.exists_of_dropUnderscores?_digit h with ⟨rest, hrest, hs⟩
      by_cases hnil : tail = []
      · rw [hnil, List.nil_append] at hrest hs
        rcases hs with hs | ⟨_, e, he, hdigit⟩
        · exact ⟨[d], rest, hs, .last hd, hrest⟩
        · rw [ht e he] at hdigit
          cases hdigit
      · rcases ih htail hnil hrest with ⟨part, ending, happend, hpart, hending⟩
        rcases hs with hs | ⟨hs, _⟩
        · exact ⟨d :: part, ending, by rw [hs, happend]; rfl, .next hd hpart, hending⟩
        · exact ⟨d :: '_' :: part, ending, by rw [hs, happend]; rfl, .spaced hd hpart, hending⟩

/-!
# Numbers with underscores
-/

theorem exponent_iff (s : Text) :
    Exponent CodePoint.isAsciiDigit s ↔
      ∃ power e, Text.dropUnderscores? none s = some power ∧ Decimal.Power power e := by
  constructor
  · intro h
    cases h with
    | none => exact ⟨[], 0, rfl, .none⟩
    | @mark mark sign digits negative isMark isSign isDigits =>
        rcases dropUnderscores?_digitPart isDigits with ⟨plain, hplain, hne, hdrop⟩
        have hdigits : Text.dropUnderscores? none digits = some plain := by
          have hwhole := hdrop [] nofun
          rwa [List.append_nil, Text.dropUnderscores?, Option.map_some, List.append_nil] at hwhole
        refine ⟨mark :: (sign ++ plain), _, ?_, .mark isMark isSign hplain hne⟩
        have hmark : mark ≠ '_' ∧ mark.isAsciiDigit = false := by
          rcases isMark with h | h <;> subst h <;> decide
        rw [Text.dropUnderscores?_cons_of_not_digit hmark.1 hmark.2,
          Text.dropUnderscores?_sign isSign, hdigits]
        rfl
  · intro h
    rcases h with ⟨power, e, hdrop, hpower⟩
    cases hpower with
    | none =>
        rw [Text.eq_nil_of_dropUnderscores? hdrop]
        exact .none
    | @mark mark sign digits negative isMark isSign isDigits nonempty =>
        have hmark : mark.isAsciiDigit = false := by
          rcases isMark with h | h <;> subst h <;> decide
        rcases Text.exists_of_dropUnderscores?_cons hmark hdrop with ⟨rest, hs, hrest⟩
        rcases Text.exists_of_dropUnderscores?_sign isSign hrest with ⟨ending, hsign, hending⟩
        rw [← List.append_nil digits] at hending
        have hends : Text.EndsDigits [] := nofun
        rcases exists_digitPart isDigits nonempty hends hending with
          ⟨part, last, happend, hpart, hlast⟩
        rw [hs, hsign, happend, Text.eq_nil_of_dropUnderscores? hlast, List.append_nil]
        exact .mark isMark isSign hpart

/-- What is left as digits, if there are any, was digits with underscores. -/
theorem exists_digits {digits s t : Text} (hdigits : Decimal.IsDigits digits)
    (ht : Text.EndsDigits t) (h : Text.dropUnderscores? none s = some (digits ++ t)) :
    ∃ part rest, s = part ++ rest ∧ Text.dropUnderscores? none rest = some t ∧
      (part = [] ∧ digits = [] ∨ DigitPart CodePoint.isAsciiDigit part) := by
  by_cases hne : digits = []
  · rw [hne] at h
    exact ⟨[], s, rfl, h, .inl ⟨rfl, hne⟩⟩
  · rcases exists_digitPart hdigits hne ht h with ⟨part, rest, hs, hpart, hrest⟩
    exact ⟨part, rest, hs, hrest, .inr hpart⟩

theorem exists_number {s t : Text} {n : Nat} {e : Int}
    (h : Text.dropUnderscores? none s = some t) (ht : Decimal.Magnitude t n e) :
    ∃ number exponent, s = number ++ exponent ∧ Number CodePoint.isAsciiDigit number ∧
      Exponent CodePoint.isAsciiDigit exponent := by
  cases ht with
  | @mk whole point fraction power exponent isWhole isFraction nonempty isPower =>
      have hpower : Text.EndsDigits power := fun c hc => (Decimal.head_of_power isPower c hc).1
      cases isFraction with
      | none =>
          have hwhole : whole ≠ [] := nonempty.resolve_right fun hne => hne rfl
          rcases exists_digitPart isWhole hwhole hpower h with ⟨part, rest, hs, hpart, hrest⟩
          refine ⟨part ++ [], rest, ?_, .whole hpart (.inl rfl),
            (exponent_iff rest).mpr ⟨power, exponent, hrest, isPower⟩⟩
          rw [hs, List.append_nil]
      | point isDigits =>
          have hpoint : Text.EndsDigits (('.' : CodePoint) :: (fraction ++ power)) := by
            intro c hc
            cases hc
            rfl
          rcases exists_digits isWhole hpoint h with ⟨part, rest, hs, hrest, hpart⟩
          rcases Text.exists_of_dropUnderscores?_cons rfl hrest with ⟨behind, hbehind, hdrop⟩
          rcases exists_digits isDigits hpower hdrop with ⟨tail, ending, happend, hending, htail⟩
          have hexponent := (exponent_iff ending).mpr ⟨power, exponent, hending, isPower⟩
          rw [hs, hbehind, happend]
          rcases htail with ⟨htail, hfraction⟩ | htail
          · have hwhole : whole ≠ [] := nonempty.resolve_right fun hne => hne hfraction
            have hfront := hpart.resolve_left fun hnil => hwhole hnil.2
            refine ⟨part ++ [('.' : CodePoint)], ending, ?_, .whole hfront (.inr rfl), hexponent⟩
            rw [htail, List.append_assoc]
            rfl
          · refine ⟨part ++ ('.' : CodePoint) :: tail, ending, ?_,
              .fraction (hpart.imp_left And.left) htail, hexponent⟩
            rw [List.append_assoc]
            rfl

theorem exists_magnitude {number exponent : Text}
    (hnumber : Number CodePoint.isAsciiDigit number)
    (hexponent : Exponent CodePoint.isAsciiDigit exponent) :
    ∃ t n e, Text.dropUnderscores? none (number ++ exponent) = some t ∧
      Decimal.Magnitude t n e := by
  rcases (exponent_iff exponent).mp hexponent with ⟨power, e, hdrop, hpower⟩
  have hend := Text.head_of_dropUnderscores? hdrop
  have hpoint : ∀ rest : Text, (∀ c ∈ ((('.' : CodePoint) :: rest).head?), c ≠ '_') ∧
      Text.dropUnderscores? none (('.' : CodePoint) :: rest) =
        (Text.dropUnderscores? none rest).map (('.' : CodePoint) :: ·) := by
    intro rest
    refine ⟨?_, Text.dropUnderscores?_cons_of_not_digit (by decide) rfl rest⟩
    intro c hc heq
    cases hc
    exact absurd heq (by decide)
  cases hnumber with
  | @whole whole point isWhole isPoint =>
      rcases dropUnderscores?_digitPart isWhole with ⟨digits, hdigits, hne, hwhole⟩
      rcases isPoint with h | h
      · subst h
        refine ⟨digits ++ ([] ++ power), _, _, ?_, .mk hdigits .none (.inl hne) hpower⟩
        rw [List.append_nil, hwhole exponent hend, hdrop]
        rfl
      · subst h
        refine ⟨digits ++ ([('.' : CodePoint)] ++ power), _, _, ?_,
          .mk hdigits (.point (List.forall_mem_nil _)) (.inl hne) hpower⟩
        rw [List.append_assoc, List.singleton_append, hwhole _ (hpoint exponent).1,
          (hpoint exponent).2, hdrop]
        rfl
  | @fraction whole fraction isWhole isFraction =>
      rcases dropUnderscores?_digitPart isFraction with ⟨tail, htail, hne, hfraction⟩
      have hbehind : Text.dropUnderscores? none ((('.' : CodePoint) :: fraction) ++ exponent) =
          some ((('.' : CodePoint) :: tail) ++ power) := by
        rw [List.cons_append, (hpoint _).2, hfraction exponent hend, hdrop]
        rfl
      rcases isWhole with h | h
      · subst h
        rw [List.nil_append]
        exact ⟨[] ++ ((('.' : CodePoint) :: tail) ++ power), _, _, hbehind,
          .mk (List.forall_mem_nil _) (.point htail) (.inr hne) hpower⟩
      · rcases dropUnderscores?_digitPart h with ⟨digits, hdigits, _, hwhole⟩
        refine ⟨digits ++ ((('.' : CodePoint) :: tail) ++ power), _, _, ?_,
          .mk hdigits (.point htail) (.inr hne) hpower⟩
        have hstart := (hpoint (fraction ++ exponent)).1
        rw [List.append_assoc, hwhole ((('.' : CodePoint) :: fraction) ++ exponent) hstart, hbehind]
        rfl

/-!
# Words
-/

/-- A word has letters only. -/
theorem isAsciiLetter_of_word {word : Text} (h : word.asciiLower ∈ words) :
    ∀ c ∈ word, c.isAsciiLetter = true := by
  have hwords : words.all (fun word => word.all fun c => 0x61 ≤ c.val && c.val ≤ 0x7A) = true := by
    decide
  have hlower := List.all_eq_true.mp (List.all_eq_true.mp hwords _ h)
  intro c hc
  have hsmall := hlower _ (List.mem_map_of_mem hc)
  simp only [CodePoint.isAsciiLetter, Bool.or_eq_true, Bool.and_eq_true, decide_eq_true_eq]
    at hsmall ⊢
  split at hsmall
  · rename_i hcapital
    exact .inl hcapital
  · exact .inr hsmall

theorem of_isAsciiLetter {c : CodePoint} (h : c.isAsciiLetter = true) :
    c.isAsciiDigit = false ∧ c ≠ '_' ∧ c ≠ '-' ∧ c ≠ '+' := by
  refine ⟨?_, ?_, ?_, ?_⟩
  · simp only [CodePoint.isAsciiLetter, Bool.or_eq_true, Bool.and_eq_true, decide_eq_true_eq] at h
    simp only [CodePoint.isAsciiDigit, Bool.and_eq_false_iff, decide_eq_false_iff_not]
    omega
  · intro heq
    exact absurd h (heq ▸ by decide)
  · intro heq
    exact absurd h (heq ▸ by decide)
  · intro heq
    exact absurd h (heq ▸ by decide)

theorem dropUnderscores?_word {word : Text} (h : ∀ c ∈ word, c.isAsciiLetter = true) :
    Text.dropUnderscores? none word = some word := by
  induction word with
  | nil => rfl
  | cons c rest ih =>
      rcases List.forall_mem_cons.mp h with ⟨hc, hrest⟩
      rcases of_isAsciiLetter hc with ⟨hdigit, hne, _⟩
      rw [Text.dropUnderscores?_cons_of_not_digit hne hdigit, ih hrest]
      rfl

theorem eq_word_of_dropUnderscores? {word s : Text} (h : ∀ c ∈ word, c.isAsciiLetter = true)
    (hdrop : Text.dropUnderscores? none s = some word) : s = word := by
  induction word generalizing s with
  | nil => exact Text.eq_nil_of_dropUnderscores? hdrop
  | cons c rest ih =>
      rcases List.forall_mem_cons.mp h with ⟨hc, hrest⟩
      rcases Text.exists_of_dropUnderscores?_cons (of_isAsciiLetter hc).1 hdrop with
        ⟨tail, hs, htail⟩
      rw [hs, ih hrest htail]

theorem not_sign_of_word {word : Text} (h : word.asciiLower ∈ words) :
    ∀ c ∈ word.head?, c ≠ '-' ∧ c ≠ '+' := by
  intro c hc
  exact (of_isAsciiLetter (isAsciiLetter_of_word h c (List.mem_of_mem_head? hc))).2.2

/-!
# Literals in ASCII
-/

/-- What is left without underscores is read as a number without its sign, or as a word. -/
theorem isSome_ofNumeral? {t plain : Text}
    (h : Text.dropUnderscores? none (Text.trimNumeral t) = some plain) :
    (ofNumeral? t).isSome = true ↔
      (∃ n e, Decimal.Magnitude (Decimal.takeSign plain).2 n e) ∨
        (Decimal.takeSign plain).2.asciiLower ∈ words := by
  generalize hsign : Decimal.takeSign plain = split
  rcases split with ⟨negative, rest⟩
  rw [ofNumeral?, h]
  simp only [Option.bind_eq_bind, Option.bind_some, hsign]
  cases hread : Decimal.unsigned? negative rest with
  | some d =>
      rcases (Decimal.unsigned?_eq_some_iff negative rest d).mp hread with ⟨n, e, hmagnitude, hd⟩
      subst hd
      exact iff_of_true rfl (.inl ⟨n, e, hmagnitude⟩)
  | none =>
      have hnone : ¬ ∃ n e, Decimal.Magnitude rest n e := by
        intro hmagnitude
        rcases hmagnitude with ⟨n, e, hmagnitude⟩
        rw [(Decimal.unsigned?_eq_some_iff negative rest _).mpr ⟨n, e, hmagnitude, rfl⟩] at hread
        cases hread
      rw [or_iff_right hnone]
      simp only [words, List.mem_cons, List.not_mem_nil, or_false, ← or_assoc]
      by_cases hinfinite : rest.asciiLower = "inf" ∨ rest.asciiLower = "infinity"
      · rw [if_pos (by simpa using hinfinite)]
        exact iff_of_true rfl (.inl hinfinite)
      · rw [if_neg (by simpa using hinfinite), or_iff_right hinfinite]
        by_cases hnan : rest.asciiLower = "nan"
        · rw [if_pos hnan]
          exact iff_of_true rfl hnan
        · rw [if_neg hnan]
          exact iff_of_false Bool.false_ne_true hnan

theorem isSome_ofNumeral?_iff (t : Text) :
    (ofNumeral? t).isSome = true ↔ Literal CodePoint.isAsciiDigit (Text.trimNumeral t) := by
  constructor
  · intro h
    cases hdrop : Text.dropUnderscores? none (Text.trimNumeral t) with
    | none =>
        rw [ofNumeral?, hdrop] at h
        cases h
    | some plain =>
        rcases Decimal.exists_takeSign plain with ⟨sign, hsign, hplain⟩
        have hbehind := hdrop
        rw [hplain] at hbehind
        rcases Text.exists_of_dropUnderscores?_sign hsign hbehind with ⟨rest, ht, hrest⟩
        rw [ht]
        rcases (isSome_ofNumeral? hdrop).mp h with ⟨n, e, hmagnitude⟩ | hword
        · rcases exists_number hrest hmagnitude with ⟨number, exponent, happend, hnumber, hexponent⟩
          rw [happend]
          exact .number hsign hnumber hexponent
        · rw [eq_word_of_dropUnderscores? (isAsciiLetter_of_word hword) hrest]
          exact .word hsign hword
  · intro h
    generalize hs : Text.trimNumeral t = s at h
    cases h with
    | @number sign number exponent negative isSign isNumber isExponent =>
        rcases exists_magnitude isNumber isExponent with ⟨plain, n, e, hdrop, hmagnitude⟩
        have hall : Text.dropUnderscores? none (Text.trimNumeral t) = some (sign ++ plain) := by
          rw [hs, Text.dropUnderscores?_sign isSign, hdrop]
          rfl
        apply (isSome_ofNumeral? hall).mpr
        rw [Decimal.takeSign_append isSign (Decimal.not_sign_of_magnitude hmagnitude)]
        exact .inl ⟨n, e, hmagnitude⟩
    | @word sign word negative isSign isWord =>
        have hall : Text.dropUnderscores? none (Text.trimNumeral t) = some (sign ++ word) := by
          rw [hs, Text.dropUnderscores?_sign isSign,
            dropUnderscores?_word (isAsciiLetter_of_word isWord)]
          rfl
        apply (isSome_ofNumeral? hall).mpr
        rw [Decimal.takeSign_append isSign (not_sign_of_word isWord)]
        exact .inr isWord

end Binary64
end TunnelBoard
