import TunnelBoard.Number.Decimal

/-!
# Numerals

A numeral may be surrounded by spaces, may have an underscore between any two
of its digits, and may use the digits of any script.  Integers are read from at
most 4300 digits.
-/

namespace TunnelBoard

namespace Text

/--
A numeral in ASCII: beyond ASCII, digits are replaced by those of ASCII, blanks
by spaces and everything else by a question mark, which no numeral contains.
-/
def asciiNumeral (t : Text) : Text :=
  t.map fun c =>
    if c.val < 0x7F then c
    else if c.isBlank then ' '
    else
      match c.digit? with
      | some d => Fin.ofNat _ (0x30 + d)
      | none => '?'

/-- The spaces that may surround a numeral: the space and the five control blanks. -/
def isNumeralSpace (c : CodePoint) : Bool := c = ' ' || (9 ≤ c.val && c.val ≤ 13)

/-- Drops the spaces around a numeral. -/
def trimNumeral (t : Text) : Text :=
  dropWhileEnd isNumeralSpace (t.dropWhile isNumeralSpace)

/--
Drops underscores that stand between two digits; there is none left to read if
an underscore stands elsewhere.
-/
def dropUnderscores? : Option CodePoint → Text → Option Text
  | _, [] => some []
  | before, c :: rest =>
      if c = '_' then
        match rest with
        | [] => none
        | d :: _ =>
            if before.any CodePoint.isAsciiDigit && d.isAsciiDigit then
              dropUnderscores? (some c) rest
            else none
      else (dropUnderscores? (some c) rest).map (c :: ·)

/-!
# Integers
-/

/-- The greatest number of digits an integer is read from. -/
def digitLimit : Nat := 4300

/-- Reads an integer in ASCII, with underscores between its digits. -/
def integerNumeral? (t : Text) : Option Int := do
  let (negative, rest) := Decimal.takeSign (trimNumeral t)
  let numeral ← dropUnderscores? none rest
  match Decimal.takeDigits numeral with
  | (d :: ds, []) =>
      if digitLimit < (d :: ds).length then none
      else
        let n : Int := digitsValue (d :: ds)
        some (if negative then -n else n)
  | _ => none

/-- Reads an integer with digits of any script. -/
def integer? (t : Text) : Option Int := integerNumeral? t.asciiNumeral

end Text
end TunnelBoard
