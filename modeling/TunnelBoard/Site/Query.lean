import TunnelBoard.Text.Percent

/-!
# Query strings

A query string is a sequence of fields between ampersands.  A field is a name
and a value with an equals sign between them; plus signs stand for spaces, and
percent escapes are read.  Of several values of a name the last one counts.
-/

namespace TunnelBoard
namespace Site

abbrev Query := List (Text × Text)

namespace Query

/-- A name or a value without its escapes. -/
def unescape (t : Text) : Text :=
  Percent.decode (t.map fun (c : CodePoint) => if c = '+' then ' ' else c)

/-- The field of a text; a text without an equals sign is a name with an empty value. -/
def field (t : Text) : Text × Text :=
  let (name, value) := (t.cut? '=').getD (t, [])
  (unescape name, unescape value)

/-- The fields of a query string, unless there are more than a limit. -/
def parse (limit : Option Nat) (t : Text) : Option Query :=
  let parts := t.splitOn '&'
  if !t.isEmpty && limit.any fun n => n < parts.length then none
  else some ((parts.filter fun part => !part.isEmpty).map field)

def last? (query : Query) (name : Text) : Option Text := query.reverse.lookup name

end Query
end Site
end TunnelBoard
