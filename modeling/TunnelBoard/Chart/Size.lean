import TunnelBoard.Fault
import TunnelBoard.Number.Binary64Text
import TunnelBoard.Value.Basic

/-!
# Sizes

A number of bytes is written in the greatest unit that it reaches, from bytes to
PB, each unit being 1024 of the one below.  Beyond bytes it is divided by the
unit in binary floating point and written with one decimal place, a half of a
tenth going to the even tenth.

Up to fifteen digits the tenths are the digits to write.  Longer numbers are
written by their shortest digits, those with more than 200 digits with an
exponent.
-/

namespace TunnelBoard
namespace Size

/-- Whether a number and its unit are kept on one line. -/
inductive Spacing where
  | plain
  | unbroken
deriving DecidableEq, Repr

/-- What stands between a number and its unit. -/
def Spacing.text : Spacing → Text
  | .plain => " "
  | .unbroken => [0xA0]

/-- The units above the byte, least first. -/
def units : List Text := ["KB", "MB", "GB", "TB", "PB"]

/-- The number of bytes in a unit; the byte is the unit of rank zero. -/
def bytesIn (rank : Nat) : Nat := Nat.pow 1024 rank

/-- The rank of the greatest unit that a number of bytes reaches. -/
def scale (n : Nat) : Nat :=
  if n < bytesIn 1 then 0
  else if n < bytesIn 2 then 1
  else if n < bytesIn 3 then 2
  else if n < bytesIn 4 then 3
  else if n < bytesIn 5 then 4
  else 5

/-- A number of tenths with its point. -/
def tenthsText (tenths : Nat) : Text :=
  Text.ofNat (tenths / 10) ++ "." ++ Text.ofNat (tenths % 10)

/-- The greatest number of digits that are written without an exponent. -/
def longest : Nat := 200

/-- Digits with their point, cut behind the first decimal place. -/
def layOut (digits : Text) (point : Int) : Text :=
  if point ≤ 16 then
    let digits := digits ++ List.replicate (point.natAbs + 1 - digits.length) ('0' : CodePoint)
    digits.take point.natAbs ++ "." ++ (digits.drop point.natAbs).take 1
  else if longest < point.natAbs then
    let first := digits ++ "0"
    first.take 1 ++ "." ++ (first.drop 1).take 1 ++ "e+" ++ Text.ofInt (point - 1)
  else
    digits ++ List.replicate (point.natAbs - digits.length) ('0' : CodePoint) ++ ".0"

/-- A number with its shortest digits. -/
def longText (units : Nat) (unit : Int) : Text :=
  let shortest := Binary64.shortestDigits units unit
  layOut shortest.1 shortest.2

/-- A number with one decimal place. -/
def oneDecimal (units : Nat) (unit : Int) : Text :=
  let ratio := Binary64.ratio units unit
  let tenths := Rounding.halfEven (10 * ratio.1) ratio.2
  if tenths < Nat.pow 10 15 then tenthsText tenths
  else
    match Binary64.ofRatio false tenths 10 with
    | .finite _ units unit => longText units unit
    | _ => []

def ofNat (spacing : Spacing) (n : Nat) : Except Fault Text :=
  match scale n with
  | 0 => .ok (Text.ofNat n ++ spacing.text ++ (if n = 1 then "byte" else "bytes"))
  | k + 1 =>
      match Binary64.ofRatio false n (bytesIn (k + 1)) with
      | .finite _ u e => .ok (oneDecimal u e ++ spacing.text ++ (units[k]?).getD [])
      | _ => .error .quotientTooLarge

/-- An integer as a size; a minus sign stands before the size of its magnitude. -/
def ofInt (spacing : Spacing) (n : Int) : Except Fault Text :=
  if n < 0 then (ofNat spacing n.natAbs).map fun t => "-" ++ t else ofNat spacing n.natAbs

def signed (negative : Bool) (n : Nat) : Int := if negative then -(n : Int) else n

/-- The integer that is taken for the number of bytes; some values are none. -/
def bytes? : Value → Except Fault (Option Int)
  | .bool b => .ok (some (if b then 1 else 0))
  | .int n => .ok (some n)
  | .float .nan => .ok none
  | .float (.infinite _) => .error .infiniteFloat
  | .float (.finite negative units unit) =>
      .ok (some (signed negative (Binary64.integerPart units unit)))
  | .decimal (.finite negative c e) => .ok (some (signed negative (Decimal.integerPart c e)))
  | .decimal (.infinite _) => .error .infiniteDecimal
  | .decimal (.nan _ _ _) => .ok none
  | .text t => .ok t.integer?
  | .bytes b => .ok (Text.integerNumeral? (b.map fun x => Fin.ofNat _ x.toNat))
  | .null => .ok none
  | .list _ => .ok none
  | .map _ => .ok none

/-- A value as a size; a value that is no number of bytes is the size zero. -/
def ofValue (spacing : Spacing) (v : Value) : Except Fault Text := do
  let n ← bytes? v
  ofInt spacing (n.getD 0)

end Size
end TunnelBoard
