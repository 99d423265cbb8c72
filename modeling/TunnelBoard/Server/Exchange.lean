import TunnelBoard.Text.Utf8

/-!
# Exchanges with a server

What is sent to a server, and the ways in which a server behaves: it fails with
a message, or it answers with a status, headers and a body.  On the way to a
server its client can be misused, which is not the failure of a server.
-/

namespace TunnelBoard
namespace Server

structure Request where
  method : Text
  address : Text
  /-- The value of the header with the credentials. -/
  authorization : Option Text
deriving DecidableEq, Repr

structure Answer where
  status : Int
  /-- The names and values as they were sent. -/
  headers : List (Bytes × Bytes)
  body : Bytes
deriving DecidableEq, Repr

/-- How the client of a server can be misused. -/
inductive Misuse where
  | address
  /-- A call with too few or too many arguments. -/
  | arguments
  | cookies
  | stream
deriving DecidableEq, Repr

inductive Behavior where
  | fails (message : Text)
  | misused (misuse : Misuse) (message : Text)
  /-- An answer that cannot be written down as bytes, and why. -/
  | garbled (message : Text)
  | answers (answer : Answer)
deriving DecidableEq, Repr

namespace Answer

/-- The headers are read as UTF-8 if all of them can be, and byte by byte otherwise. -/
def readHeader (answer : Answer) (bytes : Bytes) : Text :=
  if answer.headers.all fun (n, v) => Utf8.isWellFormed n && Utf8.isWellFormed v then
    Utf8.decodeLossy bytes
  else Text.ofBytes bytes

/-- The value of a header with an ASCII name in any case; several values are joined. -/
def header? (answer : Answer) (name : Text) : Option Text :=
  match answer.headers.filter fun (n, _) => (Text.ofBytes n).asciiLower = name.asciiLower with
  | [] => none
  | found => some (Text.join ", " (found.map fun (_, value) => answer.readHeader value))

end Answer

end Server
end TunnelBoard
