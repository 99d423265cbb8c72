import TunnelBoard.Text.Basic

/-!
# Punycode

A text is written in ASCII: first its ASCII characters, then the places and the
values of the others as a sequence of differences.  A difference is a numeral in
base 36 whose digits have thresholds; a digit below its threshold is the last
one.  The thresholds follow the size of the differences so far.

Reading stops at digits that are none, at a last difference without its last
digit, and at values that no code point has.
-/

namespace TunnelBoard
namespace Punycode

/-!
# Numerals
-/

/-- The character of a digit in base 36. -/
def digit (n : Nat) : CodePoint :=
  if n < 26 then Fin.ofNat _ (0x61 + n) else Fin.ofNat _ (0x30 + (n - 26))

/-- The value of a digit in base 36, in small letters. -/
def digit? (c : CodePoint) : Option Nat :=
  if 0x61 ≤ c.val && c.val ≤ 0x7A then some (c.val - 0x61)
  else c.asciiDigit?.map fun n => n + 26

/-- The threshold of the digit at place `k`, a multiple of 36. -/
def threshold (bias k : Nat) : Nat := max 1 (min 26 (k - bias))

/-- The digits of a difference from place `k` on. -/
def digits (bias k n : Nat) : Text :=
  let t := threshold bias k
  if h : n < t then [digit n]
  else digit (t + (n - t) % (36 - t)) :: digits bias (k + 36) ((n - t) / (36 - t))
termination_by n
decreasing_by
  have low : 1 ≤ threshold bias k := Nat.le_max_left _ _
  have high : threshold bias k ≤ 26 :=
    Nat.max_le.2 ⟨by omega, Nat.min_le_left _ _⟩
  have small : (n - threshold bias k) / (36 - threshold bias k) ≤ n - threshold bias k :=
    Nat.div_le_self _ _
  omega

/-- The bias of a difference in its final range, with the steps that led to it. -/
def settle (k n : Nat) : Nat :=
  if h : n ≤ 455 then k + 36 * n / (n + 38) else settle (k + 36) (n / 35)
termination_by n
decreasing_by omega

/-- The bias after a difference, given the number of code points that are placed. -/
def adapt (first : Bool) (n placed : Nat) : Nat :=
  let n := if first then n / 700 else n / 2
  settle 0 (n + n / placed)

/-!
# Writing
-/

/-- What is known between two differences. -/
structure State where
  /-- The steps since the last difference. -/
  delta : Nat
  bias : Nat
  placed : Nat
  first : Bool
  output : Text

/-- Takes one code point of the text in the round for the value `m`. -/
def place (m : CodePoint) (s : State) (c : CodePoint) : State :=
  if c < m then { s with delta := s.delta + 1 }
  else if c = m then
    { delta := 0
      bias := adapt s.first s.delta (s.placed + 1)
      placed := s.placed + 1
      first := false
      output := s.output ++ digits s.bias 36 s.delta }
  else s

/-- The round for a value, with the value of the round before. -/
def round (t : Text) (before : Nat) (s : State) (m : CodePoint) : State :=
  let s := { s with delta := s.delta + (m.val - before) * (s.placed + 1) }
  let s := t.foldl (place m) s
  { s with delta := s.delta + 1 }

/-- The rounds for increasing values. -/
def rounds (t : Text) : Nat → State → List CodePoint → State
  | _, s, [] => s
  | before, s, m :: rest => rounds t (m.val + 1) (round t before s m) rest

def encode (t : Text) : Text :=
  let basic := t.filter CodePoint.isAscii
  let others := (t.filter fun c => !c.isAscii).mergeSort.eraseReps
  let start : State := ⟨0, 72, basic.length, true, []⟩
  basic ++ (if basic.isEmpty then ([] : Text) else "-") ++ (rounds t 0x80 start others).output

/-!
# Reading
-/

/-- What is known between two digits. -/
structure Progress where
  value : Nat
  /-- The place behind the last code point. -/
  place : Nat
  bias : Nat
  first : Bool
  delta : Nat
  weight : Nat
  /-- The place of its next digit, a multiple of 36. -/
  k : Nat
  text : Text

/-- The progress before the first digit. -/
def Progress.start (text : Text) : Progress := ⟨0x80, 0, 72, true, 0, 1, 36, text⟩

/-- Places the code point that a difference leads to. -/
def Progress.insert? (p : Progress) : Option Progress := do
  let size := p.text.length + 1
  let steps := p.place + p.delta
  let value := p.value + steps / size
  let c ← CodePoint.ofNat? value
  let place := steps % size
  pure
    { value
      place := place + 1
      bias := adapt p.first p.delta size
      first := false
      delta := 0
      weight := 1
      k := 36
      text := p.text.take place ++ c :: p.text.drop place }

def Progress.take? (p : Progress) (c : CodePoint) : Option Progress := do
  let n ← digit? c
  let t := threshold p.bias p.k
  let p := { p with delta := p.delta + n * p.weight, weight := p.weight * (36 - t), k := p.k + 36 }
  if n < t then p.insert? else pure p

def Progress.takeAll? (p : Progress) : Text → Option Progress
  | [] => some p
  | c :: rest => do
      let p ← p.take? c
      p.takeAll? rest

/-- The text of an ASCII form in small letters. -/
def decode? (t : Text) : Option Text := do
  let (basic, digits) := (t.cutLast? '-').getD ([], t)
  let p ← (Progress.start basic).takeAll? digits
  if p.k = 36 then some p.text else none

end Punycode
end TunnelBoard
