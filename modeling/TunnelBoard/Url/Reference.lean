import TunnelBoard.Url.Basic

/-!
# References

A reference is an address that lacks its first parts.  It is read relative to
another address, from which it takes the parts it lacks: the host, and the path
up to its last slash.
-/

namespace TunnelBoard
namespace Url

/-- The schemes whose addresses have paths that can be gone along. -/
def pathSchemes : List Text :=
  ["ftp", "http", "gopher", "nntp", "imap", "wais", "file", "https", "shttp", "mms", "prospero",
    "rtsp", "rtsps", "rtspu", "sftp", "svn", "svn+ssh", "ws", "wss"]

/-- Takes a segment of a path: a dot is dropped, two dots drop the segment before. -/
def climb (taken : List Text) (segment : Text) : List Text :=
  if segment = "." then taken
  else if segment = ".." then taken.dropLast
  else taken ++ [segment]

/-- The path of segments; a dot segment at the end leads to a path with a slash at its end. -/
def climbed (segments : List Text) : Text :=
  let dots := fun segment : Text => segment = "." || segment = ".."
  let taken := segments.foldl climb []
  let path := Text.join "/" (if segments.getLast?.any dots then taken ++ [[]] else taken)
  if path.head? = some ('/' : CodePoint) then path else "/" ++ path

/-- The segments of a path without what stands behind its last slash. -/
def directory (path : Text) : List Text :=
  let segments := path.splitOn '/'
  if segments.getLast? = some [] then segments else segments.dropLast

/-- The segments without the empty ones between the first and the last. -/
def withoutGaps (segments : List Text) : List Text :=
  segments.take 1 ++ ((segments.drop 1).dropLast.filter fun segment => !segment.isEmpty)
    ++ (segments.drop 1).drop (segments.length - 2)

/-- The path of a reference that is not empty. -/
def joinedPath (start path : Text) : Text :=
  if path.head? = some ('/' : CodePoint) then climbed (path.splitOn '/')
  else climbed (withoutGaps (directory start ++ path.splitOn '/'))

def given? (part : Option Text) : Option Text := part.filter fun t => !t.isEmpty

/-- The parts of an address and a reference that make the address the reference leads to. -/
def joined (start reference : Url) : Url :=
  let query := given? reference.query
  let fragment := given? reference.fragment
  if !reference.authority.isEmpty then { reference with scheme := start.scheme, query, fragment }
  else if reference.path.isEmpty then
    { start with query := query <|> given? start.query, fragment }
  else { start with path := joinedPath start.path reference.path, query, fragment }

/-- The address that a reference leads to from an address; the empty reference leads nowhere
else. -/
def resolve (start reference : Url) : Except Flaw Url :=
  if reference.toText.isEmpty then .ok start
  else if pathSchemes.contains start.scheme then parse (joined start reference).toText
  else parse reference.toText

end Url
end TunnelBoard
