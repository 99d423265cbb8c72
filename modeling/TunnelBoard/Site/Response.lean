import TunnelBoard.Fault
import TunnelBoard.Json.Basic
import TunnelBoard.Site.Policy

/-!
# Responses

A response has a status, a body and some headers.  On its way out it passes the
layers of the site, which add the headers that guard it; a response that is made
by a layer passes only the layers around it.
-/

namespace TunnelBoard
namespace Site

/-- What the template of a page was given. -/
structure PageContext where
  error : Option Text
  style : Text
  charts : Text
deriving DecidableEq, Repr

/-- Where a response is made. -/
inductive Origin where
  /-- By a resource, inside all layers. -/
  | resource
  /-- By the layer that looks at hosts and paths, outside the one about frames. -/
  | routing
  /-- Outside all layers. -/
  | entrance
deriving DecidableEq, Repr

structure Response where
  status : Nat
  contentType : Text
  /-- The only method that is allowed, if the method of the request is not. -/
  allow : Option Text
  location : Option Text
  origin : Origin
  body : Text
  context : Option PageContext
  /-- The fault that the body is a page about, if it is one. -/
  about : Option Fault
deriving DecidableEq, Repr

namespace Response

def html : Text := "text/html; charset=utf-8"

def json : Text := "application/json"

def ofBody (status : Nat) (contentType body : Text) : Response :=
  { status
    contentType
    allow := none
    location := none
    origin := .resource
    body
    context := none
    about := none }

def notAllowed : Response := { ofBody 405 html [] with allow := some "GET" }

/-- The response that leads to another address for good. -/
def moved (location : Text) : Response :=
  { ofBody 301 html [] with location := some location, origin := .routing }

def ofJson (status : Nat) (j : Json) : Response := ofBody status json j.render

def header (name : Text) (value : Option Text) : List (Text × Text) :=
  value.toList.map fun v => (name, v)

/-- The headers that the outer layer adds. -/
def securityHeaders (security : Security) : List (Text × Text) :=
  let policies := security.referrerPolicies
  header "referrer-policy" (if policies.isEmpty then none else some (Text.join "," policies))
    ++ header "x-content-type-options" (if security.fixesTypes then some "nosniff" else none)

/-- The headers that the layers behind an origin add. -/
def guards (policy : Policy) : Origin → List (Text × Text)
  | .resource => securityHeaders policy.security ++ header "x-frame-options" (some policy.frames)
  | .routing => securityHeaders policy.security
  | .entrance => []

def headers (policy : Policy) (r : Response) : List (Text × Text) :=
  header "allow" r.allow
    ++ [(("content-type" : Text), r.contentType)]
    ++ header "location" r.location
    ++ guards policy r.origin

end Response
end Site
end TunnelBoard
