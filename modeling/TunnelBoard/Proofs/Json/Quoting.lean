import TunnelBoard.Json.Basic
import TunnelBoard.Json.Reader
import TunnelBoard.Proofs.Text.Digits
import TunnelBoard.Proofs.Text.Writable

/-!
# Texts between quotes

A text that can be written is read back from its JSON, both as it is sent and as
it stands in a script element.  The two differ in what stands for a code point;
all that matters is that what stands for it is read as this code point.
-/

namespace TunnelBoard
namespace Json

/-- Between quotes, a text is read as a code point. -/
def Spells (t : Text) (c : CodePoint) : Prop :=
  ∃ ps : List Piece,
    (∀ u, pieces? (t ++ u) = (pieces? u).map fun (qs, rest) => (ps ++ qs, rest)) ∧
      ∀ qs, joinPieces (ps ++ qs) = c :: joinPieces qs

/-- What stands for a code point is read as this code point, unless it is a surrogate. -/
def IsFaithful (escape : CodePoint → Text) : Prop :=
  ∀ c, c.isSurrogate = false → Spells (escape c) c

/-!
# Spellings
-/

theorem spells_plain {c : CodePoint} (hquote : c ≠ '"') (hbackslash : c ≠ '\\')
    (hvisible : 0x20 ≤ c.val) : Spells [c] c := by
  refine ⟨[.plain c], ?_, fun qs => rfl⟩
  intro u
  cases u with
  | nil => simp [pieces?, hquote]
  | cons e rest =>
      rw [List.singleton_append, pieces?.eq_def]
      dsimp only
      rw [if_neg hquote, if_neg hbackslash, if_neg (by omega)]
      rfl

theorem spells_short {e c : CodePoint} (hu : e ≠ 'u') (h : shortEscape? e = some c) :
    Spells ['\\', e] c := by
  refine ⟨[.plain c], ?_, fun qs => rfl⟩
  intro u
  show pieces? ('\\' :: e :: u) = _
  rw [pieces?.eq_def]
  dsimp only
  rw [if_neg (by decide), if_pos rfl, if_neg hu, h]
  rfl

theorem pieces?_unit {x y z w p : CodePoint} (h : unit? x y z w = some p) (u : Text) :
    pieces? ('\\' :: 'u' :: x :: y :: z :: w :: u) =
      (pieces? u).map fun (qs, rest) => (.unit p :: qs, rest) := by
  rw [pieces?, if_neg (by decide), if_pos rfl, if_pos rfl]
  dsimp only
  rw [h]
  rfl

theorem spells_unit {x y z w c : CodePoint} (h : unit? x y z w = some c)
    (hc : c.isSurrogate = false) : Spells ['\\', 'u', x, y, z, w] c := by
  refine ⟨[.unit c], pieces?_unit h, ?_⟩
  intro qs
  have hhigh : c.isHighSurrogate = false := by
    simp only [CodePoint.isSurrogate, CodePoint.isHighSurrogate, Bool.and_eq_false_iff,
      decide_eq_false_iff_not] at hc ⊢
    omega
  rcases qs with _ | ⟨_ | low, rest⟩
  · rfl
  · rfl
  · rw [List.singleton_append, joinPieces, hhigh]
    rfl

theorem unit?_hexDigits {n : Nat} (h : n < 0x10000) :
    unit? (Text.hexDigit (n / 0x1000)) (Text.hexDigit (n / 0x100 % 16))
      (Text.hexDigit (n / 0x10 % 16)) (Text.hexDigit (n % 16)) = some (Fin.ofNat _ n) := by
  rw [unit?, Text.hexDigit?_hexDigit (by omega), Text.hexDigit?_hexDigit (by omega),
    Text.hexDigit?_hexDigit (by omega), Text.hexDigit?_hexDigit (by omega)]
  show some (Fin.ofNat _ _) = _
  congr 2
  omega

theorem escapeUnit_eq {n : Nat} (h : n < 0x10000) :
    escapeUnit n =
      ([('\\' : CodePoint), 'u', Text.hexDigit (n / 0x1000), Text.hexDigit (n / 0x100 % 16),
        Text.hexDigit (n / 0x10 % 16), Text.hexDigit (n % 16)] : Text) := by
  rw [escapeUnit, Text.ofHex_four h]
  rfl

theorem spells_escapeUnit {c : CodePoint} (hsmall : c.val < 0x10000)
    (hc : c.isSurrogate = false) : Spells (escapeUnit c.val) c := by
  have hunit := unit?_hexDigits hsmall
  rw [Fin.ofNat_val_eq_self] at hunit
  rw [escapeUnit_eq hsmall]
  exact spells_unit hunit hc

theorem spells_pair {c : CodePoint} (hlarge : 0x10000 ≤ c.val) :
    Spells (escapeUnit (0xD800 + (c.val - 0x10000) / 0x400)
      ++ escapeUnit (0xDC00 + (c.val - 0x10000) % 0x400)) c := by
  have hc : c.val < 0x110000 := c.isLt
  generalize hhigh : 0xD800 + (c.val - 0x10000) / 0x400 = high
  generalize hlow : 0xDC00 + (c.val - 0x10000) % 0x400 = low
  have hhighUnit : high < 0x10000 := by omega
  have hlowUnit : low < 0x10000 := by omega
  refine ⟨[.unit (Fin.ofNat _ high), .unit (Fin.ofNat _ low)], ?_, ?_⟩
  · intro u
    rw [escapeUnit_eq hhighUnit, escapeUnit_eq hlowUnit]
    simp only [List.cons_append, List.nil_append]
    rw [pieces?_unit (unit?_hexDigits hhighUnit), pieces?_unit (unit?_hexDigits hlowUnit)]
    cases pieces? u <;> rfl
  · intro qs
    have hhighVal : (Fin.ofNat 0x110000 high).val = high := Nat.mod_eq_of_lt (by omega)
    have hlowVal : (Fin.ofNat 0x110000 low).val = low := Nat.mod_eq_of_lt (by omega)
    have hpair : (CodePoint.isHighSurrogate (Fin.ofNat _ high) &&
        CodePoint.isLowSurrogate (Fin.ofNat _ low)) = true := by
      simp only [CodePoint.isHighSurrogate, CodePoint.isLowSurrogate, hhighVal, hlowVal,
        Bool.and_eq_true, decide_eq_true_eq]
      omega
    have hjoin : Text.ofPair (Fin.ofNat _ high) (Fin.ofNat _ low) = c := by
      apply Fin.ext
      rw [Text.ofPair, hhighVal, hlowVal, Fin.val_ofNat, Nat.mod_eq_of_lt (by omega)]
      omega
    rw [List.cons_append, List.cons_append, List.nil_append, joinPieces, hpair, if_pos rfl, hjoin]

theorem isFaithful_escapePoint : IsFaithful escapePoint := by
  intro c hc
  unfold escapePoint
  iterate 7
    split
    · rename_i h
      exact h ▸ spells_short (by decide) rfl
  split
  · rename_i h
    simp only [Bool.and_eq_true, decide_eq_true_eq] at h
    exact spells_plain ‹_› ‹_› h.1
  split
  · exact spells_escapeUnit ‹_› hc
  · exact spells_pair (by omega)

/-!
# In a script element
-/

/-- A code point that is escaped in a script element. -/
def IsMarkup (c : CodePoint) : Prop := c = '&' ∨ c = '<' ∨ c = '>'

theorem escapeScript_eq_self {t : Text} (h : ∀ c ∈ t, ¬ IsMarkup c) : Html.escapeScript t = t := by
  induction t with
  | nil => rfl
  | cons c rest ih =>
      rcases not_or.mp (h c List.mem_cons_self) with ⟨hamp, hangles⟩
      rcases not_or.mp hangles with ⟨hless, hgreater⟩
      have hc : Html.escapeScriptPoint c = [c] := by
        rw [Html.escapeScriptPoint, if_neg hamp, if_neg hless, if_neg hgreater]
      rw [Html.escapeScript, List.flatMap_cons, ← Html.escapeScript, hc,
        ih fun d hd => h d (List.mem_cons_of_mem _ hd)]
      rfl

theorem not_mem_escapeScriptPoint {c : CodePoint} (h : IsMarkup c) (d : CodePoint) :
    c ∉ Html.escapeScriptPoint d := by
  unfold Html.escapeScriptPoint
  iterate 3
    split
    · rcases h with h | h | h <;> subst h <;> decide
  · rename_i hampersand hless hgreater
    rw [List.mem_singleton]
    intro heq
    rw [heq] at h
    exact h.elim hampersand fun h => h.elim hless hgreater

theorem not_isMarkup_of_mem_escapeScript {t : Text} {c : CodePoint}
    (h : c ∈ Html.escapeScript t) : ¬ IsMarkup c := by
  intro hmarkup
  rcases List.mem_flatMap.mp h with ⟨d, _, hd⟩
  exact not_mem_escapeScriptPoint hmarkup d hd

theorem not_isMarkup_of_mem_escapeUnit {n : Nat} (hn : n < 0x10000) {c : CodePoint}
    (h : c ∈ escapeUnit n) : ¬ IsMarkup c := by
  have hdigit : ∀ d < 16, ¬ IsMarkup (Text.hexDigit d) := by
    unfold IsMarkup
    decide
  have hletters : ¬ IsMarkup '\\' ∧ ¬ IsMarkup 'u' := by
    unfold IsMarkup
    decide
  rw [escapeUnit_eq hn] at h
  simp only [List.mem_cons, List.not_mem_nil, or_false] at h
  rcases h with h | h | h | h | h | h <;> subst h
  · exact hletters.1
  · exact hletters.2
  · exact hdigit _ (by omega)
  · exact hdigit _ (by omega)
  · exact hdigit _ (by omega)
  · exact hdigit _ (by omega)

theorem escapeScript_escapePoint {c : CodePoint} (h : ¬ IsMarkup c) :
    Html.escapeScript (escapePoint c) = escapePoint c := by
  unfold escapePoint
  iterate 7
    split
    · rfl
  split
  · apply escapeScript_eq_self
    intro d hd
    rw [List.mem_singleton.mp hd]
    exact h
  have hc : c.val < 0x110000 := c.isLt
  split
  · exact escapeScript_eq_self fun d => not_isMarkup_of_mem_escapeUnit ‹_›
  · apply escapeScript_eq_self
    intro d hd
    rcases List.mem_append.mp hd with hd | hd
    · exact not_isMarkup_of_mem_escapeUnit (by omega) hd
    · exact not_isMarkup_of_mem_escapeUnit (by omega) hd

theorem isFaithful_escapeScript : IsFaithful fun c => Html.escapeScript (escapePoint c) := by
  intro c hc
  by_cases hmarkup : IsMarkup c
  · rcases hmarkup with h | h | h <;> subst h <;> exact spells_unit rfl rfl
  · show Spells (Html.escapeScript (escapePoint c)) c
    rw [escapeScript_escapePoint hmarkup]
    exact isFaithful_escapePoint c hc

/-!
# Texts
-/

theorem pieces?_quote (rest : Text) : pieces? (('"' : CodePoint) :: rest) = some ([], rest) := by
  cases rest with
  | nil => rfl
  | cons c rest =>
      rw [pieces?.eq_def]
      dsimp only
      rw [if_pos rfl]

theorem readText?_flatMap {escape : CodePoint → Text} (hescape : IsFaithful escape) {t : Text}
    (ht : t.IsWritable) (rest : Text) :
    readText? (t.flatMap escape ++ ('"' : CodePoint) :: rest) = some (t, rest) := by
  have hpieces : ∃ ps, pieces? (t.flatMap escape ++ ('"' : CodePoint) :: rest) = some (ps, rest) ∧
      joinPieces ps = t := by
    induction t with
    | nil =>
        exact ⟨[], pieces?_quote rest, rfl⟩
    | cons c t ih =>
        rw [Text.isWritable_cons] at ht
        rcases hescape c ht.1 with ⟨ps, hspells, hjoin⟩
        rcases ih ht.2 with ⟨qs, hrest, hqs⟩
        refine ⟨ps ++ qs, ?_, ?_⟩
        · rw [List.flatMap_cons, List.append_assoc, hspells, hrest]
          rfl
        · rw [hjoin, hqs]
  rcases hpieces with ⟨ps, hps, hjoin⟩
  rw [readText?, hps, ← hjoin]
  rfl

end Json
end TunnelBoard
