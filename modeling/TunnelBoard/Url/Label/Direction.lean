import TunnelBoard.Url.Label.Mark

/-!
# Directions in labels

A label with letters that run from right to left has to start with such a
letter, must not have letters that run from left to right, has to end with a
letter or a digit apart from marks, and must not mix two kinds of digits.
-/

namespace TunnelBoard
namespace Url
namespace Label

/-- How a code point of a label takes part in the direction of the label. -/
inductive Direction where
  | leftToRight
  | rightToLeft
  | digit
  /-- Arabic digits, which run along with letters from right to left. -/
  | arabicDigit
  /-- Marks, which follow the code point before them. -/
  | mark
  | neutral
deriving DecidableEq, Repr

/-- The ranges of the code points of labels that run from right to left. -/
def rightToLeftRanges : Text.Ranges :=
  [
    (0x5D0, 0x5F4), (0x620, 0x64A), (0x66E, 0x66F), (0x671, 0x6D5), (0x6E5, 0x6E6), (0x6EE, 0x6EF),
    (0x6FA, 0x710), (0x712, 0x72F), (0x74D, 0x7A5), (0x7B1, 0x7EA), (0x7F4, 0x7F5), (0x800, 0x815),
    (0x81A, 0x81A), (0x824, 0x824), (0x828, 0x828), (0x840, 0x858), (0x860, 0x88E), (0x8A0, 0x8C9),
    (0xFE73, 0xFE73), (0x10800, 0x10A00), (0x10A10, 0x10A35), (0x10A60, 0x10AE4),
    (0x10B00, 0x10D23), (0x10E80, 0x10EA9), (0x10EB0, 0x10F45), (0x10F70, 0x10F81),
    (0x10FB0, 0x10FF6), (0x1E800, 0x1E8C4), (0x1E922, 0x1E943), (0x1E94B, 0x1E959)]

/-- The ranges of the code points of labels without a direction. -/
def neutralRanges : Text.Ranges :=
  [
    (0x2D, 0x2D), (0xB7, 0xB7), (0x2B9, 0x2BA), (0x2C6, 0x2CF), (0x2EC, 0x2EC), (0x375, 0x375),
    (0x200C, 0x200D), (0x2E2F, 0x2E2F), (0x30FB, 0x30FB), (0xA67F, 0xA67F), (0xA717, 0xA71F),
    (0xA788, 0xA788)]

/-- The ranges of the digits that do not force a direction. -/
def digitRanges : Text.Ranges :=
  [
    (0x30, 0x39), (0x6F0, 0x6F9)]

/-- The ranges of the digits that run along with letters from right to left. -/
def arabicDigitRanges : Text.Ranges :=
  [
    (0x660, 0x669), (0x10D30, 0x10D39)]

/-- The ranges of the marks that take no room and yet run from left to right. -/
def directedMarkRanges : Text.Ranges :=
  [
    (0xCBF, 0xCBF), (0xCC6, 0xCC6), (0x11A07, 0x11A08), (0x11C3F, 0x11C3F)]

def direction (c : CodePoint) : Direction :=
  if rightToLeftRanges.contains c.val then .rightToLeft
  else if digitRanges.contains c.val then .digit
  else if arabicDigitRanges.contains c.val then .arabicDigit
  else if neutralRanges.contains c.val then .neutral
  else if isNonspacing c && !directedMarkRanges.contains c.val then .mark
  else .leftToRight

/-- Whether directions can end a label that runs from right to left. -/
def endsWell (directions : List Direction) : Bool :=
  match directions.reverse.dropWhile (· = .mark) with
  | .rightToLeft :: _ => true
  | .digit :: _ => true
  | .arabicDigit :: _ => true
  | _ => false

/-- Whether the directions of the code points of a label agree with each other. -/
def directionsAgree (directions : List Direction) : Bool :=
  if directions.contains .rightToLeft || directions.contains .arabicDigit then
    directions.head? = some .rightToLeft && !directions.contains .leftToRight
      && endsWell directions && !(directions.contains .digit && directions.contains .arabicDigit)
  else true

end Label
end Url
end TunnelBoard
