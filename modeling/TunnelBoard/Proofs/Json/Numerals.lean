import TunnelBoard.Json.Basic
import TunnelBoard.Json.Reader
import TunnelBoard.Proofs.Text.Digits

/-!
# Integers in JSON

An integer with at most as many digits as a reader takes is read back, if what
stands behind it can stand behind a part of JSON.
-/

namespace TunnelBoard
namespace Json

/-- What can stand behind a part of JSON: nothing, a comma or a closing bracket or brace. -/
def ClosesPart (rest : Text) : Prop := ∀ c ∈ rest.head?, c = ',' ∨ c = ']' ∨ c = '\x7d'

theorem closesPart_nil : ClosesPart [] := by
  intro c hc
  cases hc

theorem closesPart_cons {c : CodePoint} (rest : Text) (h : c = ',' ∨ c = ']' ∨ c = '\x7d') :
    ClosesPart (c :: rest) := by
  intro d hd
  cases hd
  exact h

theorem ClosesPart.endsDigits {rest : Text} (h : ClosesPart rest) : rest.EndsDigits := by
  intro c hc
  rcases h c hc with h | h | h <;> subst h <;> rfl

theorem ClosesPart.fraction?_eq_none {rest : Text} (h : ClosesPart rest) :
    fraction? rest = none := by
  cases rest with
  | nil => rfl
  | cons c rest => rcases h c rfl with h | h | h <;> subst h <;> rfl

theorem ClosesPart.exponent?_eq_none {rest : Text} (h : ClosesPart rest) :
    exponent? rest = none := by
  cases rest with
  | nil => rfl
  | cons c rest => rcases h c rfl with h | h | h <;> subst h <;> rfl

/-!
# Numbers
-/

/-- Whether an integer has at most as many digits as a reader takes. -/
def IsShort (n : Int) : Prop := n.natAbs < Nat.pow 10 Text.digitLimit

theorem isShort_of_lt {n : Int} (h : n.natAbs < Nat.pow 10 20) : IsShort n := by
  have hlimit : 20 ≤ Text.digitLimit := by decide
  unfold IsShort
  -- The limit is kept abstract, for its power is a huge number.
  generalize Text.digitLimit = limit at hlimit ⊢
  exact Nat.lt_of_lt_of_le h (Nat.pow_le_pow_right (by decide) hlimit)

theorem wholeDigits?_ofNat_append (n : Nat) {rest : Text} (h : rest.EndsDigits) :
    wholeDigits? (Text.ofNat n ++ rest) = some (Text.digitsOf n, rest) := by
  rw [wholeDigits?, Text.takeDigits_ofNat_append n h]
  cases n with
  | zero => rfl
  | succ n =>
      rcases Text.digitsOf_eq_cons (Nat.succ_pos n) with ⟨d, digits, hdigits⟩
      rw [hdigits]
      rfl

theorem readUnsigned?_ofNat_append (negative : Bool) {n : Nat} (hn : n < Nat.pow 10 Text.digitLimit)
    {rest : Text} (h : ClosesPart rest) :
    readUnsigned? negative (Text.ofNat n ++ rest) =
      some (.int (if negative then -n else n), rest) := by
  have hlength : ¬ Text.digitLimit < (Text.digitsOf n).length := by
    have := Text.length_digitsOf_le (by decide) hn
    omega
  rw [readUnsigned?, wholeDigits?_ofNat_append n h.endsDigits]
  simp [h.fraction?_eq_none, h.exponent?_eq_none, hlength, Text.digitsValue_digitsOf]

theorem dropStart?_cons_of_ne {s c : CodePoint} (h : s ≠ c) (start rest : Text) :
    Text.dropStart? (s :: start) (c :: rest) = none :=
  if_neg h

theorem ne_of_isAsciiDigit {c d : CodePoint} (hd : d.isAsciiDigit = true)
    (hc : c.isAsciiDigit = false) : c ≠ d := by
  intro heq
  rw [heq, hd] at hc
  cases hc

theorem readAtom?_of_isAsciiDigit {d : CodePoint} (hd : d.isAsciiDigit = true) (rest : Text) :
    readAtom? (d :: rest) = readUnsigned? false (d :: rest) ∧
      readAtom? (('-' : CodePoint) :: d :: rest) = readUnsigned? true (d :: rest) := by
  have hne := fun (c : CodePoint) => ne_of_isAsciiDigit (c := c) hd
  constructor
  · have hnull : Text.dropStart? "null" (d :: rest) = none := dropStart?_cons_of_ne (hne _ rfl) _ _
    have htrue : Text.dropStart? "true" (d :: rest) = none := dropStart?_cons_of_ne (hne _ rfl) _ _
    have hfalse : Text.dropStart? "false" (d :: rest) = none :=
      dropStart?_cons_of_ne (hne _ rfl) _ _
    have hnan : Text.dropStart? "NaN" (d :: rest) = none := dropStart?_cons_of_ne (hne _ rfl) _ _
    have hinfinity : Text.dropStart? "Infinity" (d :: rest) = none :=
      dropStart?_cons_of_ne (hne _ rfl) _ _
    have hnegative : Text.dropStart? "-Infinity" (d :: rest) = none :=
      dropStart?_cons_of_ne (hne _ rfl) _ _
    have hminus : Text.dropStart? "-" (d :: rest) = none := dropStart?_cons_of_ne (hne _ rfl) _ _
    simp [readAtom?, hnull, htrue, hfalse, hnan, hinfinity, hnegative, hminus]
  · have hnegative : Text.dropStart? "-Infinity" (('-' : CodePoint) :: d :: rest) = none :=
      dropStart?_cons_of_ne (hne _ rfl) _ _
    unfold readAtom?
    dsimp only
    rw [hnegative]
    rfl

theorem ofNat_eq_cons (n : Nat) :
    ∃ d digits, Text.ofNat n = d :: digits ∧ d.isAsciiDigit = true := by
  cases h : Text.ofNat n with
  | nil => simp [Text.ofNat] at h
  | cons d digits =>
      refine ⟨d, digits, rfl, Text.isAsciiDigit_of_mem_ofNat (n := n) ?_⟩
      rw [h]
      exact List.mem_cons_self

theorem ofInt_eq_cons (n : Int) :
    ∃ c rest, Text.ofInt n = c :: rest ∧ (c = '-' ∨ c.isAsciiDigit = true) := by
  unfold Text.ofInt
  split
  · exact ⟨_, _, rfl, .inl rfl⟩
  · rcases ofNat_eq_cons n.natAbs with ⟨d, digits, hdigits, hd⟩
    exact ⟨d, digits, hdigits, .inr hd⟩

theorem readAtom?_ofInt_append {n : Int} (hn : IsShort n) {rest : Text}
    (h : ClosesPart rest) : readAtom? (Text.ofInt n ++ rest) = some (.int n, rest) := by
  have hunsigned := fun negative => readUnsigned?_ofNat_append negative hn h
  rcases ofNat_eq_cons n.natAbs with ⟨d, digits, hdigits, hd⟩
  unfold Text.ofInt
  split
  · rename_i hnegative
    have hvalue : -(n.natAbs : Int) = n := by omega
    rw [List.cons_append, hdigits, List.cons_append, (readAtom?_of_isAsciiDigit hd _).2,
      ← List.cons_append, ← hdigits, hunsigned, if_pos rfl, hvalue]
  · rename_i hpositive
    have hvalue : (n.natAbs : Int) = n := by omega
    rw [hdigits, List.cons_append, (readAtom?_of_isAsciiDigit hd _).1, ← List.cons_append,
      ← hdigits, hunsigned, if_neg (by decide), hvalue]

end Json
end TunnelBoard
