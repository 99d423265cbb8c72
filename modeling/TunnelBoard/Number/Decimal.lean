import TunnelBoard.Text.Blank
import TunnelBoard.Text.Digit

/-!
# Decimal numbers

A decimal number is a coefficient times a power of ten, with a sign; there are
also two infinities and values that are not numbers, some of which signal when
they are compared.  The coefficient and the power are kept as written, so 1.50
and 1.5 are different values that denote the same number.

A numeral is read after its blanks at both ends and all of its underscores are
dropped, with digits of any script.
-/

namespace TunnelBoard

/-- A decimal number, infinity or value that is not a number. -/
inductive Decimal where
  | finite (negative : Bool) (coefficient : Nat) (exponent : Int)
  | infinite (negative : Bool)
  | nan (negative : Bool) (signaling : Bool) (payload : Nat)
deriving DecidableEq, Repr

namespace Decimal

/-!
# Reading
-/

/-- The numeral without blanks at its ends and underscores, its digits those of ASCII. -/
def prepare? (t : Text) : Option Text :=
  (t.trim.filter (· ≠ ('_' : CodePoint))).mapM fun c =>
    if c.isAscii then some c
    else if c.isBlank then some ' '
    else c.digit?.map fun d => Fin.ofNat _ (0x30 + d)

/-- The digits a text starts with, and the rest of it. -/
def takeDigits (t : Text) : List Nat × Text :=
  (t.takeWhile CodePoint.isAsciiDigit |>.filterMap CodePoint.asciiDigit?,
    t.dropWhile CodePoint.isAsciiDigit)

/-- A sign at the start, and the rest; `true` is minus. -/
def takeSign : Text → Bool × Text
  | [] => (false, [])
  | c :: rest =>
      if c = '-' then (true, rest)
      else if c = '+' then (false, rest)
      else (false, c :: rest)

/-- The power of ten that a text consists of: nothing, or an `e` and an integer. -/
def exponent? : Text → Option Int
  | [] => some 0
  | c :: rest =>
      if c = 'e' || c = 'E' then
        let (negative, rest) := takeSign rest
        match takeDigits rest with
        | (d :: ds, []) =>
            let n : Int := Text.digitsValue (d :: ds)
            some (if negative then -n else n)
        | _ => none
      else none

/-- A number without a sign. -/
def unsigned? (negative : Bool) (t : Text) : Option Decimal :=
  let (whole, rest) := takeDigits t
  let (fraction, rest) :=
    match rest with
    | c :: rest' => if c = '.' then takeDigits rest' else ([], rest)
    | [] => ([], [])
  if whole.isEmpty && fraction.isEmpty then none
  else
    (exponent? rest).map fun e =>
      .finite negative (Text.digitsValue (whole ++ fraction)) (e - fraction.length)

/-- The number behind the digits after the word for a value that is not a number. -/
def payload? (t : Text) : Option Nat :=
  match takeDigits t with
  | (digits, []) => some (Text.digitsValue digits)
  | _ => none

/-- An infinity or a value that is not a number, without a sign and in small letters. -/
def special? (negative : Bool) (t : Text) : Option Decimal :=
  if t = "inf" || t = "infinity" then some (.infinite negative)
  else
    match Text.dropStart? "nan" t with
    | some rest => (payload? rest).map (.nan negative false)
    | none =>
        match Text.dropStart? "snan" t with
        | some rest => (payload? rest).map (.nan negative true)
        | none => none

def ofText? (t : Text) : Option Decimal := do
  let numeral ← prepare? t
  let (negative, rest) := takeSign numeral
  match unsigned? negative rest with
  | some d => some d
  | none => special? negative rest.asciiLower

/-!
# Writing
-/

/-- The number of digits of a coefficient; zero has one. -/
def digitCount (n : Nat) : Nat := (Nat.toDigits 10 n).length

/-- The power of ten of the first digit. -/
def leadingPower (coefficient : Nat) (exponent : Int) : Int :=
  exponent + digitCount coefficient - 1

/-- Puts the point of digits before the last `places` of them, with zeros in front if needed. -/
def pointed (digits : Text) (places : Nat) : Text :=
  let digits := List.replicate (places + 1 - digits.length) ('0' : CodePoint) ++ digits
  digits.take (digits.length - places) ++ "." ++ digits.drop (digits.length - places)

/-- The first digit, a point and the other digits; no point after a single digit. -/
def scientific : Text → Text
  | [] => []
  | [c] => [c]
  | c :: rest => [c] ++ "." ++ rest

/-- An integer with its sign, also when it is positive. -/
def signed (n : Int) : Text := if n < 0 then Text.ofInt n else "+" ++ Text.ofInt n

/--
The text of a number: positional as long as the power of ten is not positive and
the first digit is at most six places behind the point, otherwise with an exponent.
-/
def toText : Decimal → Text
  | .infinite negative => (if negative then "-" else "") ++ ("Infinity" : Text)
  | .nan negative signaling payload =>
      (if negative then "-" else "") ++ (if signaling then "sNaN" else "NaN")
        ++ (if payload = 0 then ([] : Text) else Text.ofNat payload)
  | .finite negative coefficient exponent =>
      let digits := Text.ofNat coefficient
      let leading := leadingPower coefficient exponent
      let body :=
        if exponent = 0 then digits
        else if exponent < 0 && -6 ≤ leading then pointed digits exponent.natAbs
        else scientific digits ++ "E" ++ signed leading
      (if negative then "-" else "") ++ body

/-!
# Value
-/

/-- Moves the factors ten of a coefficient into the power, at most `fuel` of them. -/
def stripZeros : Nat → Nat → Int → Nat × Int
  | 0, n, e => (n, e)
  | fuel + 1, n, e => if n % 10 = 0 then stripZeros fuel (n / 10) (e + 1) else (n, e)

/--
The unique form of a finite number: zero, or a coefficient that ten does not
divide.  Two finite numbers are equal if and only if these forms are.
-/
def canonical (negative : Bool) (coefficient : Nat) (exponent : Int) : Bool × Nat × Int :=
  if coefficient = 0 then (false, 0, 0)
  else (negative, stripZeros (digitCount coefficient) coefficient exponent)

/-- The integer part of the magnitude of a number, without computing powers it does not need. -/
def integerPart (coefficient : Nat) (exponent : Int) : Nat :=
  if 0 ≤ exponent then coefficient * Nat.pow 10 exponent.natAbs
  else if leadingPower coefficient exponent < 0 then 0
  else coefficient / Nat.pow 10 exponent.natAbs

end Decimal
end TunnelBoard
