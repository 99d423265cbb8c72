import TunnelBoard.Chart.Percent
import TunnelBoard.Chart.Size

/-!
# Slices and their texts

A slice of a pie has a name, a value and a color.  Its label and its tooltip are
made by formats, which are data: two formats are equal if and only if they make
their texts in the same way.
-/

namespace TunnelBoard

@[ext]
structure Slice where
  name : Text
  value : Int
  color : Text
deriving DecidableEq, Repr

def Slice.sum : List Slice → Int
  | [] => 0
  | slice :: rest => slice.value + sum rest

/-- How a number of bytes is written. -/
inductive SizeFormat where
  /-- In the greatest unit that it reaches. -/
  | humanized
  /-- In a way of the caller's own. -/
  | custom (write : Int → Text)

namespace SizeFormat

def apply : SizeFormat → Int → Except Fault Text
  | .humanized, n => Size.ofInt .plain n
  | .custom write, n => .ok (write n)

end SizeFormat

/-- How the text of a slice is made. -/
inductive SliceFormat where
  | sizeLabel (size : SizeFormat)
  /-- The name, the size and its share in a total. -/
  | sizeTooltip (total : Int) (size : SizeFormat)
  | countLabel
  /-- The name, the value and its share in a total. -/
  | countTooltip (total : Int)
  /-- In a way of the caller's own. -/
  | custom (write : Slice → Except Fault Text)

namespace SliceFormat

def apply : SliceFormat → Slice → Except Fault Text
  | .sizeLabel size, slice => do
      let amount ← size.apply slice.value
      pure (slice.name ++ "\n" ++ amount)
  | .sizeTooltip total size, slice => do
      let percent ← Percent.share slice.value total
      let amount ← size.apply slice.value
      pure (slice.name ++ ": " ++ amount ++ " — " ++ Text.ofInt percent ++ "%")
  | .countLabel, slice => pure (slice.name ++ ": " ++ Text.ofInt slice.value)
  | .countTooltip total, slice => do
      let percent ← Percent.share slice.value total
      pure (slice.name ++ ": " ++ Text.ofInt slice.value ++ " (" ++ Text.ofInt percent ++ "%)")
  | .custom write, slice => write slice

end SliceFormat
end TunnelBoard
