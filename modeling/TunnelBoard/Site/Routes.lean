import TunnelBoard.Site.ErrorPages
import TunnelBoard.Site.Host
import TunnelBoard.Site.Resources

/-!
# Routes

A request goes to a resource by its path.  Requests for other hosts and methods
other than GET are refused.  A path that only lacks its final slash leads to the
path with it, unless the request has a body that would be lost, and if the
policy says so, every request is led to another host or to a secure address.

On its way to a resource and back, a request passes the layers of the site one
after the other, and each layer has a page for the faults of those inside it.
-/

namespace TunnelBoard
namespace Site

inductive Route where
  | overview
  | snapshot
  | charts
  | health
deriving DecidableEq, Repr

namespace Route

def path : Route → Text
  | .overview => "/"
  | .snapshot => "/api/serverinfo/"
  | .charts => "/api/charts/"
  | .health => "/healthz"

def all : List Route := [.overview, .snapshot, .charts, .health]

def ofPath? (path : Text) : Option Route := all.find? fun route => route.path = path

def serve (policy : Policy) (config : Config) (server : Server.Behavior) (r : Request) :
    Route → Run Response
  | .overview => overviewPage policy config server r
  | .snapshot => snapshotData config server
  | .charts => chartsData policy config server r
  | .health => pure healthReply

end Route

/-!
# Addresses of requests
-/

/-- The code points that stand for themselves in the address of a redirect. -/
def isAddressPoint (c : CodePoint) : Bool :=
  Url.isUnreserved c || Url.isOneOf "/#%[]=:;$&()+,!?*@'" c

/-- The code points that stand for themselves in the path of a request. -/
def isPathPoint (c : CodePoint) : Bool := Url.isUnreserved c || Url.isOneOf "/:@&+$,!*'()" c

/-- The path of a request with one slash in front in place of its first slash. -/
def rootedPath (path : Text) : Text :=
  "/" ++ ((path.cut? '/').elim path fun (before, after) => before ++ after)

/--
The path and query of a request, with an ending of the path; beyond ASCII, the
bytes of the query are escaped as characters.
-/
def fullPath (r : Request) (ending : Text) : Text :=
  Percent.encode isPathPoint (rootedPath r.path) ++ ending
    ++ (if r.query.isEmpty then ([] : Text)
        else "?" ++ Percent.encode isAddressPoint (Text.ofBytes r.query.utf8))

/-- Whether a path is no resource but would be one with a final slash. -/
def lacksSlash (path : Text) : Bool :=
  !path.endsWith "/" && (Route.ofPath? path).isNone && (Route.ofPath? (path ++ "/")).isSome

def bodyMethods : List Text := ["DELETE", "POST", "PUT", "PATCH"]

/-- The path that a request is led to, unless a body would be lost on the way. -/
def slashedPath (policy : Policy) (r : Request) : Except Fault Text :=
  let path := fullPath r "/"
  if policy.debug && bodyMethods.contains r.method then .error (.lostBody r.method (r.host ++ path))
  else .ok path

/-!
# Redirects
-/

/-- The greatest number of characters of an address that requests are led to. -/
def redirectLimit : Nat := 16384

/-- The response that leads to an address, unless it is too long. -/
def lead (address : Text) : Run Response :=
  if redirectLimit < address.length then Run.fail (.longAddress redirectLimit)
  else pure (.moved (Percent.encode isAddressPoint address))

/-- The response that leads to the path with a final slash. -/
def leadToSlash (policy : Policy) (r : Request) : Run Response := do
  let path ← Run.ofExcept (slashedPath policy r)
  lead path

/-- The response that leads to the host with `www.` in front. -/
def leadToWww (policy : Policy) (r : Request) : Run Response := do
  let path ← Run.ofExcept
    (if policy.addsSlash && lacksSlash r.path then slashedPath policy r else .ok (fullPath r []))
  lead ("http://www." ++ r.host ++ path)

/-- Whether the site answers for the host of a request. -/
def isAnswered (policy : Policy) (r : Request) : Bool := Host.isAllowed policy.answeredHosts r.host

/-- The host of a request, if the site answers for it. -/
def answeredHost (policy : Policy) (r : Request) : Except Fault Text :=
  if isAnswered policy r then .ok r.host
  else .error (.unknownHost r.host ((Host.domain? r.host).getD []))

/-- The response that leads to a secure address. -/
def leadToSecure (policy : Policy) (r : Request) : Run Response := do
  let configured := policy.security.redirectHost
  let host ← Run.ofExcept (if configured.isEmpty then answeredHost policy r else .ok configured)
  lead ("https://" ++ host ++ fullPath r [])

/-!
# Layers
-/

section

variable (pages : ErrorPages) (policy : Policy) (config : Config) (server : Server.Behavior)
  (r : Request)

/-- The response inside all layers. -/
def resource : Run Response :=
  match Route.ofPath? r.path with
  | none => pure (pages.notFound policy r)
  | some route =>
      if r.method = "GET" then route.serve policy config server r else pure .notAllowed

/-- The response of the layer about frames, which has no faults of its own. -/
def framed : Run Response :=
  pages.shielded ⟨policy, config, server, r⟩ .resource (resource pages policy config server r)

/-- The response of the layer that looks at hosts and paths. -/
def route : Run Response := do
  let host ← Run.ofExcept (answeredHost policy r)
  if policy.addsWww && !(Text.dropStart? "www." host).isSome then leadToWww policy r
  else if policy.addsSlash && lacksSlash r.path then leadToSlash policy r
  else pages.shielded ⟨policy, config, server, r⟩ .routing (framed pages policy config server r)

/-- The response of the layer that leads to secure addresses. -/
def secured : Run Response :=
  if policy.security.redirects then leadToSecure policy r
  else pages.shielded ⟨policy, config, server, r⟩ .routing (route pages policy config server r)

/-- The response that a visitor gets. -/
def respond : Run Response :=
  pages.shielded ⟨policy, config, server, r⟩ .entrance (secured pages policy config server r)

end

/--
The response as it is delivered to a test: a page about a fault that is blamed on
the site is the fault itself, and the response to a HEAD request has no body.
-/
def delivered (r : Request) (response : Run Response) : Run Response := do
  let response ← response
  match response.about.filter fun _ => response.status = 500 with
  | some f => Run.fail f
  | none => pure (if r.method = "HEAD" then { response with body := [] } else response)

end Site
end TunnelBoard
