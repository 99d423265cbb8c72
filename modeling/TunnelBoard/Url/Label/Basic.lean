import TunnelBoard.Url.Label.Composite
import TunnelBoard.Url.Label.Direction
import TunnelBoard.Url.Label.Joining
import TunnelBoard.Url.Label.Point
import TunnelBoard.Url.Label.Script

/-!
# Labels

A label of a host name is composed, has its hyphens inside and not as its third
and fourth code points, and does not start with a mark.  Its code points may
stand anywhere or are allowed by their neighbours, and their directions agree.
-/

namespace TunnelBoard
namespace Url
namespace Label

/-!
# Code points that depend on others
-/

/-- Keeps two letters apart that would be joined. -/
def nonJoiner : CodePoint := 0x200C

/-- Joins two letters that would be apart. -/
def joiner : CodePoint := 0x200D

/-- The dot between two letters `l`. -/
def middleDot : CodePoint := 0xB7

/-- The sign in front of Greek numerals. -/
def greekNumeralSign : CodePoint := 0x375

/-- The signs behind Hebrew numerals. -/
def isHebrewNumeralSign (c : CodePoint) : Bool := c = 0x5F3 || c = 0x5F4

/-- The dot between Japanese words. -/
def katakanaDot : CodePoint := 0x30FB

def isArabicDigit (c : CodePoint) : Bool := 0x660 ≤ c.val && c.val ≤ 0x669

/-- The eastern forms of the Arabic digits. -/
def isEasternDigit (c : CodePoint) : Bool := 0x6F0 ≤ c.val && c.val ≤ 0x6F9

/-- Whether a code point silences the vowel of the one before it. -/
def silences (c : CodePoint) : Bool := classOf c = silencer

/-- Whether the letters on both sides of a place are joined; marks are passed over. -/
def areJoined (before after : Text) : Bool :=
  (before.find? fun c => !isTransparent c).any joinsForward
    && (after.find? fun c => !isTransparent c).any joinsBackward

/--
Whether a code point may stand in a label, given what stands before it, from
right to left, and what stands behind it.
-/
def fits (label before : Text) (c : CodePoint) (after : Text) : Bool :=
  if c = nonJoiner then before.head?.any silences || areJoined before after
  else if c = joiner then before.head?.any silences
  else if c = middleDot then
    before.head? = some ('l' : CodePoint) && after.head? = some ('l' : CodePoint)
  else if c = greekNumeralSign then after.head?.any fun d => greekRanges.contains d.val
  else if isHebrewNumeralSign c then before.head?.any fun d => hebrewRanges.contains d.val
  else if c = katakanaDot then label.any fun d => japaneseRanges.contains d.val
  else if isArabicDigit c then !label.any isEasternDigit
  else if isEasternDigit c then !label.any isArabicDigit
  else isPoint c

/-- Whether the rest of a label behind some code points may stand there. -/
def restFits (label before : Text) : Text → Bool
  | [] => true
  | c :: after => fits label before c after && restFits label (c :: before) after

/-!
# Labels
-/

/-- Whether the hyphens of a label are where hyphens may be. -/
def hyphensFit (t : Text) : Bool :=
  t.head? ≠ some ('-' : CodePoint) && t.getLast? ≠ some ('-' : CodePoint)
    && (t.drop 2).take 2 ≠ ("--" : Text)

end Label

/-- Whether a text is a label of a host name. -/
def isLabel (t : Text) : Bool :=
  !t.isEmpty && Label.hyphensFit t && !t.head?.any Label.isMark && Label.restFits t [] t
    && Label.directionsAgree (t.map Label.direction) && Label.isComposed t

end Url
end TunnelBoard
