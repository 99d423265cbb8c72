import TunnelBoard.Text.Basic
import TunnelBoard.Text.Ranges

/-!
# Scripts of labels

A few code points may stand in a label only next to letters of some script.  The
tables say which code points of labels belong to these scripts.
-/

namespace TunnelBoard
namespace Url
namespace Label

/-- The ranges of the Greek code points of labels. -/
def greekRanges : Text.Ranges :=
  [
    (0x371, 0x3E1), (0x3F3, 0x3FC), (0x1D26, 0x1D2A), (0x1F00, 0x1FF6), (0xAB65, 0xAB65)]

/-- The ranges of the Hebrew code points of labels. -/
def hebrewRanges : Text.Ranges :=
  [
    (0x591, 0x5F4), (0xFB1E, 0xFB1E)]

/-- The ranges of the code points of labels in the scripts that Japanese is written in. -/
def japaneseRanges : Text.Ranges :=
  [
    (0x3005, 0x3005), (0x3007, 0x3007), (0x3041, 0x3096), (0x309D, 0x30FA), (0x30FD, 0x30FE),
    (0x31F0, 0x9FFF), (0xFA0E, 0xFA29), (0x16FE3, 0x16FE3), (0x16FF0, 0x16FF1), (0x1AFF0, 0x1B167),
    (0x20000, 0x3134A)]

end Label
end Url
end TunnelBoard
