import TunnelBoard.Fault
import TunnelBoard.Number.Quotient

/-!
# Percentages

The share of a slice is divided in decimal arithmetic of 28 digits and then
rounded to an integer, with a half going away from zero.
-/

namespace TunnelBoard
namespace Percent

/-- The number of digits that decimal arithmetic keeps. -/
def precision : Nat := 28

/-- The share of `n` in `d` in percent, without the limit on its digits. -/
def round (n d : Nat) : Nat :=
  let quotient := Decimal.quotient precision (100 * n) d
  Decimal.nearestInteger quotient.1 quotient.2

/--
The percentage of a value in a total that is at least one; nothing comes of
percentages that need more digits than decimal arithmetic keeps.
-/
def share (value total : Int) : Except Fault Int :=
  let percent := round value.natAbs (max 1 total).natAbs
  if Nat.pow 10 precision ≤ percent then .error .tooManyDigits
  else if value < 0 then .ok (-percent)
  else .ok percent

end Percent
end TunnelBoard
