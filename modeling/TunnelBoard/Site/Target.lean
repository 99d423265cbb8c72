import TunnelBoard.Url.Basic

/-!
# Targets

The target of a request is a path and a query string.  It is read like an
address: a scheme in front is passed over, and so is an authority between two
slashes and the path.  What stands in the authority is of no interest, but it
has to look like an authority.
-/

namespace TunnelBoard
namespace Site

structure Target where
  authority : Text
  path : Text
  query : Text
deriving DecidableEq, Repr

namespace Target

/-- The text of a target without leading blanks, line breaks and tabs. -/
def clean (t : Text) : Text :=
  (t.dropWhile fun c => c.val ≤ 0x20).filter fun c => c ≠ '\t' && c ≠ '\n' && c ≠ '\r'

def split (t : Text) : Target :=
  let t := clean t
  let (scheme, rest) := Url.splitScheme t
  let (authority, rest) := Url.splitAuthority (if scheme.isEmpty then t else rest)
  let rest : Text := List.takeWhile (fun c : CodePoint => c ≠ '#') rest
  let (path, query) := (rest.cut? '?').getD (rest, [])
  { authority, path, query }

end Target
end Site
end TunnelBoard
