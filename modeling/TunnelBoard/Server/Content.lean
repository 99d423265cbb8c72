import TunnelBoard.Compression.Container
import TunnelBoard.Server.Exchange
import TunnelBoard.Text.Blank
import TunnelBoard.Text.Lower

/-!
# Content codings

The body of an answer may be compressed, several times over.  A header names the
codings in the order in which they were applied; names that are not known are
passed over.
-/

namespace TunnelBoard
namespace Server

inductive Coding where
  | gzip
  | deflate
deriving DecidableEq, Repr

namespace Coding

def ofName? (name : Text) : Option Coding :=
  if name = "gzip" then some .gzip
  else if name = "deflate" then some .deflate
  else none

/-- The body before a coding was applied; the container of the second coding may be missing. -/
def undo (body : Bytes) : Coding → Except Compression.Flaw Bytes
  | .gzip => Compression.File.decode body
  | .deflate =>
      match Compression.Stream.decode body with
      | .ok bytes => .ok bytes
      | .error _ => Compression.decodeRaw body

end Coding

namespace Answer

/-- The codings of the body in the order in which they were applied. -/
def codings (answer : Answer) : List Coding :=
  let names := (answer.header? "Content-Encoding").elim [] fun t => t.splitOn ','
  names.filterMap fun name => Coding.ofName? name.trim.lower

/-- The body as it was before any coding was applied. -/
def uncompressed (answer : Answer) : Except Compression.Flaw Bytes :=
  answer.codings.reverse.foldlM Coding.undo answer.body

end Answer
end Server
end TunnelBoard
