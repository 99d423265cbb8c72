import Mathlib.Data.List.TakeWhile
import TunnelBoard.Site.Request
import TunnelBoard.Text.Html

/-!
# Texts that can be written

A text can be written in UTF-8 if none of its code points is a surrogate.  Text
literals and numerals can always be written, and a text that is put together can
be written if and only if its parts can.
-/

namespace TunnelBoard
namespace Text

@[simp]
theorem isWritable_nil : IsWritable [] := by
  intro c hc
  cases hc

@[simp]
theorem isWritable_cons (c : CodePoint) (t : Text) :
    IsWritable (c :: t) ↔ c.isSurrogate = false ∧ t.IsWritable :=
  List.forall_mem_cons

@[simp]
theorem isWritable_append (s t : Text) : (s ++ t).IsWritable ↔ s.IsWritable ∧ t.IsWritable :=
  List.forall_mem_append

theorem not_isWritable_append {s : Text} (h : ¬ s.IsWritable) (t : Text) :
    ¬ (s ++ t).IsWritable :=
  fun hwhole => h ((isWritable_append s t).mp hwhole).1

theorem isWritable_flatMap {α : Type} (items : List α) (f : α → Text) :
    IsWritable (items.flatMap f) ↔ ∀ a ∈ items, (f a).IsWritable := by
  induction items with
  | nil => simp
  | cons a rest ih => simp [ih]

theorem join_cons_cons (separator part next : Text) (parts : List Text) :
    join separator (part :: next :: parts) =
      part ++ separator ++ join separator (next :: parts) := by
  simp [join, List.intercalate]

theorem isWritable_join {separator : Text} (hseparator : separator.IsWritable) {parts : List Text}
    (h : ∀ part ∈ parts, part.IsWritable) : (join separator parts).IsWritable := by
  induction parts with
  | nil => exact isWritable_nil
  | cons part parts ih =>
      rw [List.forall_mem_cons] at h
      cases parts with
      | nil => simpa [join, List.intercalate] using h.1
      | cons next parts =>
          rw [join_cons_cons]
          simp [h.1, hseparator, ih h.2]

theorem isWritable_replicate (n : Nat) {c : CodePoint} (hc : c.isSurrogate = false) :
    IsWritable (List.replicate n c) := by
  intro d hd
  rw [List.eq_of_mem_replicate hd]
  exact hc

/-!
# ASCII
-/

theorem isAscii_append (s t : Text) :
    (s ++ t).isAscii = true ↔ s.isAscii = true ∧ t.isAscii = true := by
  rw [isAscii, List.all_append, Bool.and_eq_true]
  rfl

theorem isAscii_of_subset {s t : Text} (h : t.isAscii = true) (hsubset : s ⊆ t) :
    s.isAscii = true :=
  List.all_eq_true.mpr fun c hc => List.all_eq_true.mp h c (hsubset hc)

theorem isWritable_of_isAscii {t : Text} (h : t.isAscii = true) : t.IsWritable := by
  intro c hc
  have hsmall := List.all_eq_true.mp h c hc
  simp only [CodePoint.isAscii, decide_eq_true_eq] at hsmall
  simp only [CodePoint.isSurrogate, Bool.and_eq_false_iff, decide_eq_false_iff_not]
  omega

/-!
# Literals and numerals

No character is a surrogate.
-/

theorem isWritable_map_ofChar (chars : List Char) :
    IsWritable (chars.map CodePoint.ofChar) := by
  intro c hc
  rcases List.mem_map.mp hc with ⟨char, _, hchar⟩
  subst hchar
  have hnot : ¬ (0xD800 ≤ char.toNat ∧ char.toNat ≤ 0xDFFF) := by
    rcases char.valid with hlow | ⟨hhigh, _⟩
    · have : char.toNat < 0xD800 := hlow
      omega
    · have : 0xDFFF < char.toNat := hhigh
      omega
  show (decide (0xD800 ≤ char.toNat) && decide (char.toNat ≤ 0xDFFF)) = false
  rw [← Bool.decide_and]
  exact decide_eq_false hnot

@[simp]
theorem isWritable_ofString (s : String) : (ofString s).IsWritable :=
  isWritable_map_ofChar s.toList

@[simp]
theorem isWritable_ofNat (n : Nat) : (ofNat n).IsWritable :=
  isWritable_map_ofChar (Nat.toDigits 10 n)

@[simp]
theorem isWritable_ofInt (n : Int) : (ofInt n).IsWritable := by
  unfold ofInt
  split
  · exact (isWritable_cons _ _).mpr ⟨by decide, isWritable_ofNat n.natAbs⟩
  · exact isWritable_ofNat n.natAbs

/-!
# Texts in a page
-/

theorem isWritable_escapePoint (c : CodePoint) :
    (Html.escapePoint c).IsWritable ↔ c.isSurrogate = false := by
  have hliteral : ∀ {s : String} {d : CodePoint}, d.isSurrogate = false →
      ((ofString s).IsWritable ↔ d.isSurrogate = false) := by
    intro s d hd
    simp [hd]
  unfold Html.escapePoint
  iterate 5
    split
    · rename_i h
      subst h
      exact hliteral rfl
  simp

@[simp]
theorem isWritable_escape (t : Text) : (Html.escape t).IsWritable ↔ t.IsWritable := by
  rw [Html.escape, isWritable_flatMap]
  exact forall₂_congr fun c _ => isWritable_escapePoint c

end Text

/-!
# Writing
-/

theorem Charset.encode_eq_ok_iff (charset : Charset) (t : Text) :
    (∃ bytes, charset.encode t = .ok bytes) ↔ ∀ c ∈ t, charset.admits c = true := by
  unfold encode
  cases h : t.dropWhile charset.admits with
  | nil =>
      constructor
      · intro _
        exact List.dropWhile_eq_nil_iff.mp h
      · intro _
        exact ⟨_, rfl⟩
  | cons first rest =>
      constructor
      · intro hok
        rcases hok with ⟨bytes, hbytes⟩
        cases hbytes
      · intro hall
        rw [List.dropWhile_eq_nil_iff.mpr hall] at h
        cases h

theorem Charset.admits_utf8_iff (t : Text) :
    (∀ c ∈ t, Charset.utf8.admits c = true) ↔ t.IsWritable := by
  simp [Charset.admits, Text.IsWritable]

theorem Charset.encode_utf8_eq_ok_iff (t : Text) :
    (∃ bytes, Charset.utf8.encode t = .ok bytes) ↔ t.IsWritable := by
  rw [encode_eq_ok_iff, admits_utf8_iff]

/-- A run ends at the first code point that does not belong to it, whatever stands behind that. -/
theorem Text.span_append_cons {p : CodePoint → Bool} (run : Text) {c : CodePoint}
    (hc : p c = false) (rest : Text) :
    (run ++ c :: rest).takeWhile p = run.takeWhile p ∧
      (run ++ c :: rest).dropWhile p = run.dropWhile p ++ c :: rest := by
  induction run with
  | nil => simp [hc]
  | cons d run ih => cases hd : p d <;> simp [hd, ih]

/-- If a text cannot be written, this shows at its first code point that cannot be. -/
theorem Charset.exists_first {charset : Charset} {t : Text}
    (h : ¬ ∀ c ∈ t, charset.admits c = true) :
    ∃ clear first rest, t = clear ++ first :: rest ∧
      (∀ c ∈ clear, charset.admits c = true) ∧ charset.admits first = false := by
  cases hrest : t.dropWhile charset.admits with
  | nil => exact absurd (List.dropWhile_eq_nil_iff.mp hrest) h
  | cons first rest =>
      refine ⟨t.takeWhile charset.admits, first, rest, ?_, ?_, ?_⟩
      · rw [← hrest, List.takeWhile_append_dropWhile]
      · exact fun c hc => List.mem_takeWhile_imp hc
      · have hfirst := List.head_dropWhile_not charset.admits (l := t) (by simp [hrest])
        simpa [hrest] using hfirst

theorem Charset.encode_append_cons {charset : Charset} {clear : Text} {first : CodePoint}
    (hclear : ∀ c ∈ clear, charset.admits c = true) (hfirst : charset.admits first = false)
    (rest : Text) :
    charset.encode (clear ++ first :: rest) =
      .error
        { charset
          position := clear.length
          first
          length := 1 + (rest.takeWhile fun c => !charset.admits c).length
          surroundings :=
            clear.drop (clear.length - Unencodable.margin)
              ++ first :: (rest.takeWhile fun c => !charset.admits c)
              ++ (rest.dropWhile fun c => !charset.admits c).take Unencodable.margin } := by
  have hspan := Text.span_append_cons clear hfirst rest
  rw [List.takeWhile_eq_self_iff.mpr hclear, List.dropWhile_eq_nil_iff.mpr hclear] at hspan
  simp only [encode, hspan, List.nil_append]

/-- Behind a run and its margin, nothing has a part in what is reported. -/
theorem Charset.encode_append {charset : Charset} {before margin : Text}
    (hbefore : ¬ ∀ c ∈ before, charset.admits c = true)
    (hmargin : ∀ c ∈ margin, charset.admits c = true)
    (hlength : Unencodable.margin ≤ margin.length) (after : Text) :
    charset.encode (before ++ margin ++ after) = charset.encode (before ++ margin) := by
  rcases exists_first hbefore with ⟨clear, first, rest, hsplit, hclear, hfirst⟩
  cases margin with
  | nil => exact absurd hlength (by decide)
  | cons c margin =>
      have hc : (!charset.admits c) = false := by
        rw [hmargin c List.mem_cons_self]
        rfl
      have hrun := Text.span_append_cons (p := fun c => !charset.admits c) rest hc
      have htake : (rest.dropWhile (fun c => !charset.admits c) ++
            c :: (margin ++ after)).take Unencodable.margin =
          (rest.dropWhile (fun c => !charset.admits c) ++ c :: margin).take
            Unencodable.margin := by
        rw [← List.cons_append, ← List.append_assoc]
        apply List.take_append_of_le_length
        rw [List.length_append]
        omega
      rw [hsplit]
      simp only [List.append_assoc, List.cons_append]
      rw [encode_append_cons hclear hfirst, encode_append_cons hclear hfirst]
      simp only [hrun, htake]

theorem Site.writable_eq_ok {t : Text} (h : t.IsWritable) : writable t = .ok t := by
  rcases (Charset.encode_utf8_eq_ok_iff t).mpr h with ⟨bytes, hbytes⟩
  rw [writable, hbytes]

theorem Site.writable_eq_error {t : Text} (h : ¬ t.IsWritable) :
    ∃ run, writable t = .error (.unencodable run) ∧ ¬ run.surroundings.IsWritable := by
  rw [← Charset.admits_utf8_iff] at h
  rcases Charset.exists_first h with ⟨clear, first, rest, hsplit, hclear, hfirst⟩
  rw [hsplit]
  simp only [writable, Charset.encode_append_cons hclear hfirst]
  refine ⟨_, rfl, ?_⟩
  intro hwritable
  rw [Charset.admits, hwritable first (by simp)] at hfirst
  cases hfirst

theorem Site.writable_append {before margin : Text} (hbefore : ¬ before.IsWritable)
    (hmargin : margin.IsWritable) (hlength : Unencodable.margin ≤ margin.length) (after : Text) :
    writable (before ++ margin ++ after) = writable (before ++ margin) := by
  have hwhole := Text.not_isWritable_append hbefore margin
  rw [← Charset.admits_utf8_iff] at hbefore hmargin
  rw [← Charset.encode_utf8_eq_ok_iff] at hwhole
  unfold writable
  rw [Charset.encode_append hbefore hmargin hlength after]
  cases hencode : Charset.utf8.encode (before ++ margin) with
  | ok bytes => exact absurd ⟨bytes, hencode⟩ hwhole
  | error run => rfl

theorem Site.writable_append_of_isWritable (before : Text) {margin after : Text}
    (hmargin : margin.IsWritable) (hlength : Unencodable.margin ≤ margin.length)
    (hafter : after.IsWritable) :
    writable (before ++ margin ++ after) =
      (writable (before ++ margin)).map fun t => t ++ after := by
  by_cases hbefore : before.IsWritable
  · have hwhole : (before ++ margin).IsWritable :=
      (Text.isWritable_append before margin).mpr ⟨hbefore, hmargin⟩
    rw [writable_eq_ok hwhole, writable_eq_ok ((Text.isWritable_append _ after).mpr
      ⟨hwhole, hafter⟩)]
    rfl
  · have hwhole := Text.not_isWritable_append hbefore margin
    rw [writable_append hbefore hmargin hlength after]
    rcases writable_eq_error hwhole with ⟨run, hrun, _⟩
    rw [hrun]
    rfl

end TunnelBoard
