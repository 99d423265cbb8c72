import TunnelBoard.Value.Display

/-!
# Counters

A counter is an integer between zero and the greatest signed 64 bit number.  A
value of any kind is taken for a counter: a number, or the numeral that the
plain text of a value is, is truncated, and whatever is no number or lies out of
range counts as zero.

The size of a numeral is looked at before its digits are spelled out, so a
numeral with a huge power of ten is cheap.
-/

namespace TunnelBoard
namespace Counter

def limit : Nat := 0x7FFFFFFFFFFFFFFF

/-- An integer, or zero if it is out of range. -/
def ofInt (n : Int) : Nat := if 0 ≤ n && n ≤ limit then n.toNat else 0

/-- The greatest power of ten of the first digit of a counter. -/
def powerLimit : Int := 18

/-- A decimal number without its fraction, or zero if it is out of range. -/
def ofDecimal : Decimal → Nat
  | .finite negative coefficient exponent =>
      if powerLimit < Decimal.leadingPower coefficient exponent then 0
      else
        let whole : Int := Decimal.integerPart coefficient exponent
        ofInt (if negative then -whole else whole)
  | .infinite _ => 0
  | .nan _ _ _ => 0

/-- The counter a text is the numeral of. -/
def ofText (t : Text) : Nat := (Decimal.ofText? t.trim).elim 0 ofDecimal

/-- The counter a value is taken for. -/
def ofValue : Value → Nat
  | .null => 0
  | .bool _ => 0
  | .int n => ofInt n
  | v => ofText v.plain

end Counter
end TunnelBoard
