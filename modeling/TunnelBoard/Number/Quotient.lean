import TunnelBoard.Number.Decimal
import TunnelBoard.Number.Rounding

/-!
# Quotients in decimal arithmetic

Decimal arithmetic keeps a fixed number of digits.  A quotient of two natural
numbers is rounded to that many digits, a half going to an even last digit.
-/

namespace TunnelBoard
namespace Decimal

/-- The quotient `n / (d * 10 ^ e)` as a numerator and a denominator. -/
def inPlaces (n d : Nat) (e : Int) : Nat × Nat :=
  if 0 ≤ e then (n, d * Nat.pow 10 e.natAbs) else (n * Nat.pow 10 e.natAbs, d)

/-- The place of the last of `precision` digits of `n / d`. -/
def lastPlace (precision n d : Nat) : Int :=
  let low : Int := (digitCount n : Int) - digitCount d - precision
  let (a, b) := inPlaces n d low
  if a < b * Nat.pow 10 precision then low else low + 1

/-- The coefficient and the power of ten of `n / d`, rounded to `precision` digits. -/
def quotient (precision n d : Nat) : Nat × Int :=
  let e := lastPlace precision n d
  let (a, b) := inPlaces n d e
  (Rounding.halfEven a b, e)

/-- The integer nearest to `coefficient * 10 ^ exponent`; a half goes up. -/
def nearestInteger (coefficient : Nat) (exponent : Int) : Nat :=
  if 0 ≤ exponent then coefficient * Nat.pow 10 exponent.natAbs
  else Rounding.halfUp coefficient (Nat.pow 10 exponent.natAbs)

end Decimal
end TunnelBoard
