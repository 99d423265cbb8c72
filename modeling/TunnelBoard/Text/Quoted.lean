import TunnelBoard.Text.Printable
import TunnelBoard.Text.Utf8

/-!
# Quoted texts

A text in a message stands between single quotes, or between double quotes if
it has a single quote and no double one.  Backslashes, the closing quote, line
breaks and tabs are escaped, and so is every code point that does not show.
-/

namespace TunnelBoard
namespace Text

/-- The quote a text is put between. -/
def quoteFor (t : Text) : CodePoint :=
  if t.contains ('\'' : CodePoint) && !t.contains ('"' : CodePoint) then '"' else '\''

def quotePoint (quote c : CodePoint) : Text :=
  if c = '\\' || c = quote then ['\\', c]
  else if c = '\n' then "\\n"
  else if c = '\r' then "\\r"
  else if c = '\t' then "\\t"
  else if c.isPrintable then [c]
  else c.numericEscape

/-- The quoted form of a text. -/
def quoted (t : Text) : Text :=
  let quote := quoteFor t
  quote :: t.flatMap (quotePoint quote) ++ [quote]

/-- The quoted form of bytes: as a text of code points below 256 in which only ASCII shows. -/
def quotedBytes (bytes : Bytes) : Text :=
  let t : Text := bytes.map fun b => Fin.ofNat _ b.toNat
  let quote := quoteFor t
  let point := fun c : CodePoint => if c.isAscii then quotePoint quote c else c.numericEscape
  ('b' : CodePoint) :: quote :: t.flatMap point ++ [quote]

end Text
end TunnelBoard
