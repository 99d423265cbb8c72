import TunnelBoard.Site.Deployment
import TunnelBoard.Value.Display

/-!
# Policy

What holds for every request to the site, whatever it is for: the hosts that the
site answers for, the redirects to better addresses, and the headers that guard
a response.  Some of it is settled when the site is started.
-/

namespace TunnelBoard
namespace Site

/-- What is settled when the site is started. -/
structure Security where
  /-- Whether requests are led to secure addresses. -/
  redirects : Bool
  /-- The host that secure addresses have; the host of the request if it is empty. -/
  redirectHost : Text
  /-- What a browser may tell others of an address; nothing is said if there is no policy. -/
  referrerPolicies : List Text
  /-- Whether a browser has to take the type of a response as it is. -/
  fixesTypes : Bool
deriving DecidableEq, Repr

/-- What holds for every request. -/
structure Policy where
  /-- Whether pages about errors show the request and the error. -/
  debug : Bool
  hosts : List Text
  /-- Whether paths that lack their final slash lead to the paths with it. -/
  addsSlash : Bool
  /-- Whether hosts without `www.` in front lead to the hosts with it. -/
  addsWww : Bool
  /-- Which frames may show a page. -/
  frames : Text
  /-- The greatest number of fields of a query, if there is one. -/
  fieldLimit : Option Nat
  security : Security
deriving DecidableEq, Repr

namespace Security

/-- The security of a site that is not configured. -/
def default : Security :=
  { redirects := false
    redirectHost := []
    referrerPolicies := ["same-origin"]
    fixesTypes := true }

/-- The policies in a value: a text with commas between them, or a list. -/
def policiesIn : Value → List Text
  | .text [] => []
  | .text t => (t.splitOn ',').map Text.trim
  | .list items => items.map Value.plain
  | _ => []

end Security

namespace Policy

/-- The policy of a site that is not configured. -/
def default : Policy :=
  { debug := true
    hosts := Deployment.localHosts
    addsSlash := true
    addsWww := false
    frames := "DENY"
    fieldLimit := some 1000
    security := Security.default }

def ofDeployment (s : Deployment) : Policy :=
  { default with
    debug := s.debug
    hosts := s.hosts
    security := { Security.default with redirects := s.secureRedirect } }

/-- The hosts that a site for developers answers for if it is not given any. -/
def developmentHosts : List Text := [".localhost", "127.0.0.1", "[::1]"]

def answeredHosts (policy : Policy) : List Text :=
  if policy.debug && policy.hosts.isEmpty then developmentHosts else policy.hosts

/-- The hosts in a value: the items of a list or the characters of a text. -/
def hostsIn : Value → List Text
  | .list items => items.map Value.plain
  | .text t => t.map fun c => [c]
  | _ => []

/-- The greatest number in a value; no number is no limit. -/
def limitIn : Value → Option Nat
  | .int n => some n.toNat
  | _ => none

/-- The policy with one value replaced, by the name of its variable. -/
def set (policy : Policy) (name : Text) (v : Value) : Policy :=
  let security := policy.security
  if name = "DEBUG" then { policy with debug := v.isTruthy }
  else if name = "ALLOWED_HOSTS" then { policy with hosts := hostsIn v }
  else if name = "APPEND_SLASH" then { policy with addsSlash := v.isTruthy }
  else if name = "PREPEND_WWW" then { policy with addsWww := v.isTruthy }
  else if name = "X_FRAME_OPTIONS" then { policy with frames := v.plain.upper }
  else if name = "DATA_UPLOAD_MAX_NUMBER_FIELDS" then { policy with fieldLimit := limitIn v }
  else if name = "SECURE_SSL_REDIRECT" then
    { policy with security := { security with redirects := v.isTruthy } }
  else if name = "SECURE_SSL_HOST" then
    { policy with security := { security with redirectHost := if v.isTruthy then v.plain else [] } }
  else if name = "SECURE_REFERRER_POLICY" then
    { policy with security := { security with referrerPolicies := Security.policiesIn v } }
  else if name = "SECURE_CONTENT_TYPE_NOSNIFF" then
    { policy with security := { security with fixesTypes := v.isTruthy } }
  else policy

end Policy
end Site
end TunnelBoard
