import TunnelBoard.Number.Rounding

/-!
# Binary floating point numbers

A finite number is a whole number of units, and its unit is a power of two.
The numbers of a binade share the unit for which they have 53 bits; numbers
below the first binade share the least unit, two to the power -1074.

The module defines the numbers, rounding of quotients to a nearest number, and
the decimal digits that denote a number most briefly.
-/

namespace TunnelBoard

/-- A number with 53 bits of precision, an infinity, or no number. -/
inductive Binary64 where
  | nan
  | infinite (negative : Bool)
  | finite (negative : Bool) (units : Nat) (unit : Int)
deriving DecidableEq, Repr

namespace Binary64

def leastUnit : Int := -1074

def greatestUnit : Int := 971

/-- Two to the power 53; the numbers of a binade have at least half as many units, but not more. -/
def unitLimit : Nat := 0x20000000000000

/-- The quotient `n / (d * 2 ^ e)` as a numerator and a denominator. -/
def inUnits (n d : Nat) (e : Int) : Nat × Nat :=
  if 0 ≤ e then (n, d * Nat.pow 2 e.natAbs) else (n * Nat.pow 2 e.natAbs, d)

/-- Whether `n / d` is less than `unitLimit` units. -/
def fits (n d : Nat) (e : Int) : Bool :=
  let (n, d) := inUnits n d e
  n < d * unitLimit

/-- The exponent of the unit of the numbers around `n / d`. -/
def unitOf (n d : Nat) : Int :=
  let low : Int := max leastUnit ((Nat.log2 n : Int) - Nat.log2 d - 53)
  if fits n d low then low else low + 1

/-- A number of units, or an infinity if the unit is too great. -/
def bounded (negative : Bool) (units : Nat) (unit : Int) : Binary64 :=
  if greatestUnit < unit then .infinite negative else .finite negative units unit

/-- A rounded number of units; `unitLimit` units are half as many of the next unit. -/
def ofUnits (negative : Bool) (units : Nat) (unit : Int) : Binary64 :=
  if units = unitLimit then bounded negative (unitLimit / 2) (unit + 1)
  else bounded negative units unit

/-- The number nearest to `n / d`, with a half going to an even number of units. -/
def ofRatio (negative : Bool) (n d : Nat) : Binary64 :=
  if n = 0 then .finite negative 0 leastUnit
  else
    let unit := unitOf n d
    let quotient := inUnits n d unit
    ofUnits negative (Rounding.halfEven quotient.1 quotient.2) unit

def ofInt (n : Int) : Binary64 := ofRatio (n < 0) n.natAbs 1

/-- The number nearest to `coefficient * 10 ^ exponent`. -/
def ofDecimal (negative : Bool) (coefficient : Nat) (exponent : Int) : Binary64 :=
  let digits : Int := (Nat.toDigits 10 coefficient).length
  if coefficient = 0 then .finite negative 0 leastUnit
  else if 310 < digits + exponent then .infinite negative
  else if digits + exponent < -330 then .finite negative 0 leastUnit
  else if 0 ≤ exponent then ofRatio negative (coefficient * Nat.pow 10 exponent.natAbs) 1
  else ofRatio negative coefficient (Nat.pow 10 exponent.natAbs)

/-- The magnitude of a finite number as a numerator and a denominator. -/
def ratio (units : Nat) (unit : Int) : Nat × Nat :=
  if 0 ≤ unit then (units * Nat.pow 2 unit.natAbs, 1) else (units, Nat.pow 2 unit.natAbs)

/-- The integer part of the magnitude of a finite number. -/
def integerPart (units : Nat) (unit : Int) : Nat :=
  let (n, d) := ratio units unit
  n / d

/-!
# Shortest digits

The numbers that round to a given one form an interval around it, whose ends
belong to it when the number of units is even.  Below the least number of a
binade the interval is half as wide.
-/

/-- The interval of the magnitudes that round to a number, over a common denominator. -/
structure Interval where
  low : Nat
  value : Nat
  high : Nat
  denominator : Nat
  closed : Bool

/-- The interval of a number that is not zero. -/
def interval (units : Nat) (unit : Int) : Interval :=
  let (scale, denominator) := ratio 1 (unit - 2)
  let below := if units = unitLimit / 2 && leastUnit < unit then 1 else 2
  { low := (4 * units - below) * scale
    value := 4 * units * scale
    high := (4 * units + 2) * scale
    denominator
    closed := units % 2 = 0 }

namespace Interval

/-- The power of ten above the value: the number of digits before its point. -/
def magnitude (i : Interval) : Int :=
  if i.denominator ≤ i.value then (Nat.toDigits 10 (i.value / i.denominator)).length
  else
    let inverse := (i.denominator + i.value - 1) / i.value
    1 - (Nat.toDigits 10 (inverse - 1)).length

/-- Whether `n * 10 ^ power` is in the interval. -/
def holds (i : Interval) (n : Nat) (power : Int) : Bool :=
  let x := if 0 ≤ power then n * Nat.pow 10 power.natAbs * i.denominator else n * i.denominator
  let s := if 0 ≤ power then 1 else Nat.pow 10 power.natAbs
  if i.closed then i.low * s ≤ x && x ≤ i.high * s else i.low * s < x && x < i.high * s

/--
The decimal with a given last place that is in the interval and nearest to the
value.  Only the two neighbours of the value on the grid of that place need to
be looked at.
-/
def nearest? (i : Interval) (power : Int) : Option Nat :=
  let (n, d) :=
    if 0 ≤ power then (i.value, i.denominator * Nat.pow 10 power.natAbs)
    else (i.value * Nat.pow 10 power.natAbs, i.denominator)
  let below := n / d
  match i.holds below power, i.holds (below + 1) power with
  | true, true => some (Rounding.halfEven n d)
  | true, false => some below
  | false, true => some (below + 1)
  | false, false => none

/-- The least number of digits of a decimal in the interval, its digits and its last place. -/
def shortest (i : Interval) : Nat × Int :=
  let places := (List.range' 1 17).map fun (count : Nat) => i.magnitude - count
  (places.findSome? fun power => (i.nearest? power).map (·, power)).getD (0, 0)

end Interval

end Binary64
end TunnelBoard
