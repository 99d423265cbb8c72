import TunnelBoard.Fault
import TunnelBoard.Site.Cookie
import TunnelBoard.Site.Policy
import TunnelBoard.Site.Query
import TunnelBoard.Site.Target

/-!
# Requests

A request has a method, a host, a path without percent escapes, a query string
and a header with cookies.  The path and the query string come from the target
of the request.
-/

namespace TunnelBoard
namespace Site

structure Request where
  method : Text
  host : Text
  path : Text
  query : Text
  cookies : Text
deriving DecidableEq, Repr

/-- A text that has to be written in UTF-8. -/
def writable (t : Text) : Except Fault Text :=
  match Charset.utf8.encode t with
  | .ok _ => .ok t
  | .error run => .error (.unencodable run)

namespace Request

/-- The path and the query string of a target, with their escapes. -/
def readTarget (target : Text) : Except Fault (Text × Text) := do
  let target := Target.split target
  match Url.Authority.flaw? target.authority with
  | some flaw => throw (.badTarget flaw)
  | none =>
      let path ← writable target.path
      let query ← writable target.query
      pure (path, query)

/-- The request for a target; an empty path is the root. -/
def ofTarget (method host target cookies : Text) : Except Fault Request := do
  let (path, query) ← readTarget target
  let path := Percent.decodeReadable path
  pure
    { method := method.upper
      host
      path := if path.isEmpty then "/" else path
      query
      cookies }

def fields (policy : Policy) (r : Request) : Except Fault Query :=
  match Query.parse policy.fieldLimit r.query with
  | some query => .ok query
  | none => .error .tooManyFields

def readCookies (r : Request) : Except Fault Cookies :=
  match Cookies.parse r.cookies with
  | .ok cookies => .ok cookies
  | .error run => .error (.unencodable run)

/-- The fault of a page that shows the request to developers, if such pages are made. -/
def exposureFault? (policy : Policy) (r : Request) : Option Fault :=
  if policy.debug then
    match r.readCookies, r.fields policy with
    | .error f, _ => some f
    | .ok _, .error f => some f
    | .ok _, .ok _ => none
  else none

end Request
end Site
end TunnelBoard
