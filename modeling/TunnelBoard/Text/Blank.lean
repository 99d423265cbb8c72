import TunnelBoard.Text.Basic
import TunnelBoard.Text.Ranges

/-!
# Blank code points

The blanks are the Unicode white space characters together with the four
information separators U+001C to U+001F.  A zero width space and a byte order
mark are not blank.
-/

namespace TunnelBoard
namespace Text

/-- The ranges of the blank code points. -/
def blankRanges : Ranges :=
  [
    (0x9, 0xD), (0x1C, 0x20), (0x85, 0x85), (0xA0, 0xA0), (0x1680, 0x1680), (0x2000, 0x200A),
    (0x2028, 0x2029), (0x202F, 0x202F), (0x205F, 0x205F), (0x3000, 0x3000)]

end Text

namespace CodePoint

def isBlank (c : CodePoint) : Bool := Text.blankRanges.contains c.val

end CodePoint

namespace Text

def trim (t : Text) : Text :=
  dropWhileEnd CodePoint.isBlank (t.dropWhile CodePoint.isBlank)

def IsTrimmed (t : Text) : Prop :=
  (∀ c ∈ t.head?, c.isBlank = false) ∧ (∀ c ∈ t.getLast?, c.isBlank = false)

end Text
end TunnelBoard
