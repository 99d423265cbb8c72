import TunnelBoard.Number.Binary64
import TunnelBoard.Number.Numeral

/-!
# Texts of floating point numbers

A number is written with the fewest digits that denote it, positional from
0.0001 on and below ten to the power 16, and with an exponent of at least two
digits otherwise.
-/

namespace TunnelBoard

namespace Binary64

/-!
# Writing
-/

/-- A positive number given by its digits and the number of them before the point. -/
def layOut (digits : Text) (point : Int) : Text :=
  if -4 < point && point ≤ 16 then
    if point ≤ 0 then "0." ++ List.replicate point.natAbs ('0' : CodePoint) ++ digits
    else if (digits.length : Int) ≤ point then
      digits ++ List.replicate (point.natAbs - digits.length) ('0' : CodePoint) ++ ".0"
    else digits.take point.natAbs ++ "." ++ digits.drop point.natAbs
  else
    let e := point - 1
    let exponent := Text.ofNat e.natAbs
    Decimal.scientific digits ++ (if e < 0 then "e-" else "e+")
      ++ List.replicate (2 - exponent.length) ('0' : CodePoint) ++ exponent

/-- The significant digits of a positive number and the number of them before the point. -/
def shortestDigits (units : Nat) (unit : Int) : Text × Int :=
  let shortest := (interval units unit).shortest
  let stripped := Decimal.stripZeros (Decimal.digitCount shortest.1) shortest.1 shortest.2
  let digits := Text.ofNat stripped.1
  (digits, stripped.2 + digits.length)

def toText : Binary64 → Text
  | .nan => "nan"
  | .infinite negative => if negative then "-inf" else "inf"
  | .finite negative units unit =>
      let body : Text :=
        if units = 0 then "0.0"
        else
          let (digits, point) := shortestDigits units unit
          layOut digits point
      if negative then "-" ++ body else body

/-!
# Reading
-/

def ofNumeral? (t : Text) : Option Binary64 := do
  let numeral ← Text.dropUnderscores? none (Text.trimNumeral t)
  let (negative, rest) := Decimal.takeSign numeral
  match Decimal.unsigned? negative rest with
  | some (.finite negative coefficient exponent) => some (ofDecimal negative coefficient exponent)
  | _ =>
      let word := rest.asciiLower
      if word = "inf" || word = "infinity" then some (.infinite negative)
      else if word = "nan" then some .nan
      else none

def ofText? (t : Text) : Option Binary64 := ofNumeral? t.asciiNumeral

end Binary64

end TunnelBoard
