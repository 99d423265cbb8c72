import TunnelBoard.Proofs.Number.Truncation

/-!
# Decimal literals

A decimal literal has a sign, digits with a point among them and a power of ten,
of which only the digits are needed.  It denotes a rational number.  What is read
as a finite number are the literals, and the number that is read is the one that
is denoted.
-/

namespace TunnelBoard
namespace Decimal

/-!
# Grammar
-/

/-- A sign; `true` is minus. -/
inductive Sign : Text → Bool → Prop where
  | none : Sign [] false
  | plus : Sign ['+'] false
  | minus : Sign ['-'] true

/-- A run of decimal digits, which may be empty. -/
def IsDigits (t : Text) : Prop := ∀ c ∈ t, c.isAsciiDigit = true

/-- The number that a run of digits stands for. -/
def valueOf (digits : Text) : Nat := Text.digitsValue digits.digitValues

/-- A point with the digits behind it, or nothing. -/
inductive Fraction : Text → Text → Prop where
  | none : Fraction [] []
  | point {digits : Text} (isDigits : IsDigits digits) : Fraction ('.' :: digits) digits

theorem Fraction.isDigits {point digits : Text} (h : Fraction point digits) : IsDigits digits := by
  cases h with
  | none => exact nofun
  | point isDigits => exact isDigits

/-- A power of ten: an `e` and an integer, or nothing. -/
inductive Power : Text → Int → Prop where
  | none : Power [] 0
  | mark {mark : CodePoint} {sign digits : Text} {negative : Bool}
      (isMark : mark = 'e' ∨ mark = 'E') (isSign : Sign sign negative)
      (isDigits : IsDigits digits) (nonempty : digits ≠ []) :
      Power (mark :: (sign ++ digits))
        (if negative then -(valueOf digits : Int) else valueOf digits)

/-- A literal and the number that it denotes. -/
inductive Literal : Text → ℚ → Prop where
  | mk {sign whole point fraction power : Text} {negative : Bool} {exponent : Int}
      (isSign : Sign sign negative) (isWhole : IsDigits whole)
      (isFraction : Fraction point fraction) (nonempty : whole ≠ [] ∨ fraction ≠ [])
      (isPower : Power power exponent) :
      Literal (sign ++ (whole ++ (point ++ power)))
        ((if negative then -1 else 1) *
          ((valueOf whole + valueOf fraction / 10 ^ fraction.length) * 10 ^ exponent))

/-!
# Digits
-/

theorem foldl_digits (n : Nat) (digits : List Nat) :
    digits.foldl (fun n d => 10 * n + d) n =
      n * 10 ^ digits.length + Text.digitsValue digits := by
  induction digits generalizing n with
  | nil => exact (Nat.mul_one n).symm
  | cons d rest ih =>
      have hvalue : Text.digitsValue (d :: rest) =
          (10 * 0 + d) * 10 ^ rest.length + Text.digitsValue rest := ih (10 * 0 + d)
      rw [List.foldl_cons, ih, hvalue, List.length_cons]
      ring

theorem digitsValue_append (a b : List Nat) :
    Text.digitsValue (a ++ b) = Text.digitsValue a * 10 ^ b.length + Text.digitsValue b := by
  rw [Text.digitsValue, List.foldl_append, foldl_digits, ← Text.digitsValue]

theorem digitValues_append (s t : Text) :
    (s ++ t).digitValues = s.digitValues ++ t.digitValues :=
  List.filterMap_append

theorem length_digitValues {digits : Text} (h : IsDigits digits) :
    digits.digitValues.length = digits.length := by
  induction digits with
  | nil => rfl
  | cons c rest ih =>
      have hc : c.asciiDigit? = some (c.val - 0x30) := if_pos (h c List.mem_cons_self)
      have hrest : IsDigits rest := fun d hd => h d (List.mem_cons_of_mem c hd)
      rw [Text.digitValues, List.filterMap_cons_some hc, List.length_cons, List.length_cons,
        ← Text.digitValues, ih hrest]

theorem digitValues_eq_nil_iff {digits : Text} (h : IsDigits digits) :
    digits.digitValues = [] ↔ digits = [] := by
  rw [← List.length_eq_zero_iff, length_digitValues h, List.length_eq_zero_iff]

theorem exists_takeDigits (t : Text) :
    ∃ digits rest, t = digits ++ rest ∧ IsDigits digits ∧ Text.EndsDigits rest ∧
      takeDigits t = (digits.digitValues, rest) := by
  refine ⟨t.takeWhile CodePoint.isAsciiDigit, t.dropWhile CodePoint.isAsciiDigit,
    List.takeWhile_append_dropWhile.symm, ?_, ?_, rfl⟩
  · intro c hc
    exact List.all_eq_true.mp List.all_takeWhile c hc
  · intro c hc
    have hhead := List.head?_dropWhile_not CodePoint.isAsciiDigit t
    rw [Option.mem_def.mp hc] at hhead
    simpa using hhead

theorem takeSign_append {sign rest : Text} {negative : Bool} (h : Sign sign negative)
    (hrest : ∀ c ∈ rest.head?, c ≠ '-' ∧ c ≠ '+') : takeSign (sign ++ rest) = (negative, rest) := by
  cases h with
  | none =>
      cases rest with
      | nil => rfl
      | cons c rest =>
          have hc := hrest c rfl
          rw [List.nil_append, takeSign, if_neg hc.1, if_neg hc.2]
  | plus => rfl
  | minus => rfl

theorem exists_takeSign (t : Text) :
    ∃ sign, Sign sign (takeSign t).1 ∧ t = sign ++ (takeSign t).2 := by
  cases t with
  | nil => exact ⟨[], .none, rfl⟩
  | cons c rest =>
      rw [takeSign]
      split
      · rename_i hc
        subst hc
        exact ⟨['-'], .minus, rfl⟩
      · split
        · rename_i hc
          subst hc
          exact ⟨['+'], .plus, rfl⟩
        · exact ⟨[], .none, rfl⟩

/-- A digit is no sign. -/
theorem not_sign_of_isDigits {digits : Text} (h : IsDigits digits) (hne : digits ≠ [])
    (rest : Text) :
    ∀ c ∈ (digits ++ rest).head?, c ≠ '-' ∧ c ≠ '+' := by
  cases digits with
  | nil => exact absurd rfl hne
  | cons d tail =>
      intro c hc
      cases hc
      have hdigit := h d List.mem_cons_self
      constructor
      · intro heq
        subst heq
        cases hdigit
      · intro heq
        subst heq
        cases hdigit

/-!
# Powers
-/

theorem exponent?_eq_some_iff (t : Text) (e : Int) : exponent? t = some e ↔ Power t e := by
  constructor
  · intro h
    cases t with
    | nil =>
        cases h
        exact .none
    | cons c rest =>
        rw [exponent?] at h
        split at h
        · rename_i hmark
          have hmark : c = 'e' ∨ c = 'E' := by simpa using hmark
          rcases exists_takeSign rest with ⟨sign, hsign, hrest⟩
          rcases exists_takeDigits (takeSign rest).2 with
            ⟨digits, ending, happend, hdigits, _, htake⟩
          dsimp only at h
          rw [htake] at h
          split at h
          · rename_i d ds hvalues
            rcases Prod.mk.inj hvalues with ⟨hvalues, hending⟩
            have hnonempty : digits ≠ [] := by
              rw [ne_eq, ← digitValues_eq_nil_iff hdigits, hvalues]
              exact List.cons_ne_nil d ds
            have hpower : rest = sign ++ digits := by
              rw [hrest, happend, hending, List.append_nil]
            rw [← hvalues] at h
            have hliteral := Power.mark hmark hsign hdigits hnonempty
            rw [← hpower] at hliteral
            rw [← Option.some.inj h]
            exact hliteral
          · cases h
        · cases h
  · intro h
    cases h with
    | none => rfl
    | @mark mark sign digits negative isMark isSign isDigits nonempty =>
        have hstart := not_sign_of_isDigits isDigits nonempty []
        have htake : takeDigits (digits ++ []) = _ := Text.takeDigits_append isDigits nofun
        rw [List.append_nil] at hstart htake
        have hmark : (mark = 'e' || mark = 'E') = true := by simpa using isMark
        rw [exponent?, if_pos hmark, takeSign_append isSign hstart]
        dsimp only
        rw [htake]
        cases hvalues : digits.digitValues with
        | nil => exact absurd ((digitValues_eq_nil_iff isDigits).mp hvalues) nonempty
        | cons d ds => rw [valueOf, hvalues]

/-- A power of ten does not go on with a digit or a point. -/
theorem head_of_power {t : Text} {e : Int} (h : Power t e) :
    ∀ c ∈ t.head?, c.isAsciiDigit = false ∧ c ≠ '.' := by
  intro c hc
  cases h with
  | none => cases hc
  | mark isMark =>
      cases hc
      rcases isMark with h | h <;> subst h <;> decide

/-!
# Numbers without a sign
-/

/-- A text that is divided where its digits end, which may have a point among them. -/
structure IsDivided (whole point fraction rest : Text) : Prop where
  isWhole : IsDigits whole
  isFraction : Fraction point fraction
  endsDigits : Text.EndsDigits rest
  noPoint : point = [] → ∀ c ∈ rest.head?, c ≠ '.'

theorem exists_isDivided (t : Text) :
    ∃ whole point fraction rest,
      t = whole ++ (point ++ rest) ∧ IsDivided whole point fraction rest := by
  rcases exists_takeDigits t with ⟨whole, rest, happend, hwhole, hends, _⟩
  cases rest with
  | nil => exact ⟨whole, [], [], [], happend, hwhole, .none, nofun, nofun⟩
  | cons c tail =>
      by_cases hc : c = '.'
      · rcases exists_takeDigits tail with ⟨fraction, rest, htail, hfraction, hrest, _⟩
        refine ⟨whole, '.' :: fraction, fraction, rest, ?_, hwhole, .point hfraction, hrest, nofun⟩
        rw [happend, hc, htail]
        rfl
      · refine ⟨whole, [], [], c :: tail, happend, hwhole, .none, hends, ?_⟩
        intro _ d hd
        cases hd
        exact hc

theorem unsigned?_of_isDivided {whole point fraction rest : Text}
    (h : IsDivided whole point fraction rest) (negative : Bool) :
    unsigned? negative (whole ++ (point ++ rest)) =
      if whole = [] ∧ fraction = [] then none
      else
        (exponent? rest).map fun e =>
          .finite negative (valueOf (whole ++ fraction)) (e - fraction.length) := by
  have hfraction := h.isFraction.isDigits
  -- With a point or without one, reading ends in the same check.
  have hclose : (if (whole.digitValues.isEmpty && fraction.digitValues.isEmpty) = true then none
      else
        (exponent? rest).map fun e =>
          Decimal.finite negative (Text.digitsValue (whole.digitValues ++ fraction.digitValues))
            (e - fraction.digitValues.length)) =
      if whole = [] ∧ fraction = [] then none
      else
        (exponent? rest).map fun e =>
          Decimal.finite negative (valueOf (whole ++ fraction)) (e - fraction.length) := by
    rw [← digitValues_append, ← valueOf, length_digitValues hfraction]
    simp only [Bool.and_eq_true, List.isEmpty_iff, digitValues_eq_nil_iff h.isWhole,
      digitValues_eq_nil_iff hfraction]
  apply Eq.trans _ hclose
  cases h.isFraction with
  | none =>
      rw [List.nil_append, unsigned?, Text.takeDigits_append h.isWhole h.endsDigits]
      cases rest with
      | nil => rfl
      | cons c tail =>
          simp only [if_neg (h.noPoint rfl c rfl)]
          rfl
  | point isDigits =>
      have hpoint : Text.EndsDigits ((('.' : CodePoint) :: fraction) ++ rest) := by
        intro c hc
        cases hc
        rfl
      rw [unsigned?, Text.takeDigits_append h.isWhole hpoint]
      simp only [List.cons_append, if_true, Text.takeDigits_append isDigits h.endsDigits]

/-- A number without a sign: its coefficient and its power of ten. -/
inductive Magnitude : Text → Nat → Int → Prop where
  | mk {whole point fraction power : Text} {exponent : Int} (isWhole : IsDigits whole)
      (isFraction : Fraction point fraction) (nonempty : whole ≠ [] ∨ fraction ≠ [])
      (isPower : Power power exponent) :
      Magnitude (whole ++ (point ++ power)) (valueOf (whole ++ fraction))
        (exponent - fraction.length)

theorem unsigned?_eq_some_iff (negative : Bool) (t : Text) (d : Decimal) :
    unsigned? negative t = some d ↔ ∃ c e, Magnitude t c e ∧ d = .finite negative c e := by
  constructor
  · intro h
    rcases exists_isDivided t with ⟨whole, point, fraction, rest, happend, hdivided⟩
    rw [happend, unsigned?_of_isDivided hdivided] at h
    split at h
    · cases h
    · rename_i hnonempty
      rcases Option.map_eq_some_iff.mp h with ⟨e, hexponent, hd⟩
      have hpower := (exponent?_eq_some_iff rest e).mp hexponent
      rw [happend]
      exact ⟨_, _, .mk hdivided.isWhole hdivided.isFraction (not_and_or.mp hnonempty) hpower,
        hd.symm⟩
  · intro h
    rcases h with ⟨c, e, hmagnitude, hd⟩
    cases hmagnitude with
    | @mk whole point fraction power exponent isWhole isFraction nonempty isPower =>
        have hhead := head_of_power isPower
        have hdivided : IsDivided whole point fraction power :=
          ⟨isWhole, isFraction, fun c hc => (hhead c hc).1, fun _ c hc => (hhead c hc).2⟩
        rw [unsigned?_of_isDivided hdivided, if_neg (not_and_or.mpr nonempty),
          (exponent?_eq_some_iff power exponent).mpr isPower, hd]
        rfl

theorem not_sign_of_magnitude {t : Text} {c : Nat} {e : Int} (h : Magnitude t c e) :
    ∀ d ∈ t.head?, d ≠ '-' ∧ d ≠ '+' := by
  cases h with
  | @mk whole point fraction power exponent isWhole isFraction nonempty isPower =>
      by_cases hwhole : whole = []
      · have hfraction : fraction ≠ [] := nonempty.resolve_left (absurd hwhole)
        rw [hwhole, List.nil_append]
        cases isFraction with
        | none => exact absurd rfl hfraction
        | point isDigits =>
            intro d hd
            cases hd
            decide
      · exact not_sign_of_isDigits isWhole hwhole _

/-!
# Literals
-/

/-- The point can be left out of a number if its power of ten makes up for it. -/
theorem value_without_point (whole : Text) {fraction : Text} (h : IsDigits fraction)
    (exponent : Int) :
    ((valueOf whole : ℚ) + valueOf fraction / 10 ^ fraction.length) * 10 ^ exponent =
      valueOf (whole ++ fraction) * 10 ^ (exponent - fraction.length) := by
  have hten : (10 : ℚ) ^ fraction.length ≠ 0 := pow_ne_zero _ (by norm_num)
  rw [valueOf, valueOf, valueOf, digitValues_append, digitsValue_append, length_digitValues h,
    zpow_sub₀ (by norm_num), zpow_natCast]
  push_cast
  field_simp

theorem literal_iff (t : Text) (x : ℚ) :
    Literal t x ↔
      ∃ sign negative rest c e, t = sign ++ rest ∧ Sign sign negative ∧ Magnitude rest c e ∧
        x = rational negative c e := by
  constructor
  · intro h
    cases h with
    | @mk sign whole point fraction power negative exponent isSign isWhole isFraction nonempty
        isPower =>
        refine ⟨sign, negative, _, _, _, rfl, isSign, .mk isWhole isFraction nonempty isPower, ?_⟩
        rw [value_without_point whole isFraction.isDigits, rational]
  · intro h
    rcases h with ⟨sign, negative, rest, c, e, ht, hsign, hmagnitude, hx⟩
    cases hmagnitude with
    | @mk whole point fraction power exponent isWhole isFraction nonempty isPower =>
        rw [ht, hx, rational, ← value_without_point whole isFraction.isDigits]
        exact .mk hsign isWhole isFraction nonempty isPower

theorem not_finite_of_special? {negative : Bool} {t : Text} {d : Decimal}
    (h : special? negative t = some d) (n : Bool) (c : Nat) (e : Int) : d ≠ .finite n c e := by
  intro hd
  subst hd
  unfold special? at h
  split at h
  · cases h
  · split at h
    · rcases Option.map_eq_some_iff.mp h with ⟨payload, _, hd⟩
      cases hd
    · split at h
      · rcases Option.map_eq_some_iff.mp h with ⟨payload, _, hd⟩
        cases hd
      · cases h

theorem ofText?_of_prepare? {t numeral : Text} (h : prepare? t = some numeral) :
    ofText? t =
      (unsigned? (takeSign numeral).1 (takeSign numeral).2).or
        (special? (takeSign numeral).1 (takeSign numeral).2.asciiLower) := by
  rw [ofText?, h]
  cases hread : unsigned? (takeSign numeral).1 (takeSign numeral).2 with
  | none =>
      simp only [Option.bind_eq_bind, Option.bind_some, hread]
      rfl
  | some d =>
      simp only [Option.bind_eq_bind, Option.bind_some, hread]
      rfl

/-- The finite numbers that are read are those of the literals. -/
theorem ofText?_eq_finite_iff (t : Text) (negative : Bool) (c : Nat) (e : Int) :
    ofText? t = some (.finite negative c e) ↔
      ∃ sign rest, prepare? t = some (sign ++ rest) ∧ Sign sign negative ∧ Magnitude rest c e := by
  cases hprepare : prepare? t with
  | none =>
      have hnone : ofText? t = none := by
        rw [ofText?, hprepare]
        rfl
      simp [hnone]
  | some numeral =>
      rw [ofText?_of_prepare? hprepare, Option.or_eq_some_iff]
      constructor
      · intro h
        rcases exists_takeSign numeral with ⟨sign, hsign, hnumeral⟩
        rcases h with hunsigned | ⟨_, hspecial⟩
        · rcases (unsigned?_eq_some_iff _ _ _).mp hunsigned with ⟨c', e', hmagnitude, hd⟩
          cases hd
          exact ⟨sign, _, congrArg some hnumeral, hsign, hmagnitude⟩
        · exact absurd rfl (not_finite_of_special? hspecial negative c e)
      · intro h
        rcases h with ⟨sign, rest, hnumeral, hsign, hmagnitude⟩
        have htake := takeSign_append hsign (not_sign_of_magnitude hmagnitude)
        rw [Option.some.inj hnumeral, htake]
        exact .inl ((unsigned?_eq_some_iff negative rest _).mpr ⟨c, e, hmagnitude, rfl⟩)

end Decimal

/--
A text denotes a number if it is a literal of it, without the blanks around it and
the underscores in it, and with its digits written in those of ASCII.
-/
def Text.Denotes (t : Text) (x : ℚ) : Prop :=
  ∃ numeral, Decimal.prepare? t = some numeral ∧ Decimal.Literal numeral x

theorem Text.denotes_iff (t : Text) (x : ℚ) :
    t.Denotes x ↔
      ∃ negative c e, Decimal.ofText? t = some (.finite negative c e) ∧
        x = Decimal.rational negative c e := by
  constructor
  · intro h
    rcases h with ⟨numeral, hprepare, hliteral⟩
    rcases (Decimal.literal_iff numeral x).mp hliteral with
      ⟨sign, negative, rest, c, e, hnumeral, hsign, hmagnitude, hx⟩
    rw [hnumeral] at hprepare
    exact ⟨negative, c, e,
      (Decimal.ofText?_eq_finite_iff t negative c e).mpr ⟨sign, rest, hprepare, hsign, hmagnitude⟩,
      hx⟩
  · intro h
    rcases h with ⟨negative, c, e, hread, hx⟩
    rcases (Decimal.ofText?_eq_finite_iff t negative c e).mp hread with
      ⟨sign, rest, hprepare, hsign, hmagnitude⟩
    exact ⟨_, hprepare, (Decimal.literal_iff _ x).mpr
      ⟨sign, negative, rest, c, e, rfl, hsign, hmagnitude, hx⟩⟩

end TunnelBoard
