import TunnelBoard.Site.Environment
import TunnelBoard.Text.Upper

/-!
# Deployment

How the site is deployed is read from the environment.  Debugging switches as a
whole: without it a secret key has to be given, and static files are served and
stored in compressed form.
-/

namespace TunnelBoard
namespace Site

structure Deployment where
  debug : Bool
  secretKey : Text
  hosts : List Text
  middleware : List Text
  secureRedirect : Bool
  storage : Text
  logLevel : Text
  address : Text
  username : Text
  password : Text
  timeout : Binary64
  theme : Text
  chartStyle : Text
deriving DecidableEq, Repr

namespace Deployment

/-- The hosts of a site that is not given any. -/
def localHosts : List Text := ["localhost", "127.0.0.1", "[::1]"]

/-- The address of a server that is not given one. -/
def localAddress : Text := "http://127.0.0.1:7500"

def developmentKey : Text := "dev-only-insecure-secret-key"

/-- The seconds to wait for a server. -/
def patience : Binary64 := Binary64.ofInt 5

/-- The layers of the site. -/
def middlewareFor (debug : Bool) : List Text :=
  "django.middleware.security.SecurityMiddleware"
    :: ((if debug then [] else [("whitenoise.middleware.WhiteNoiseMiddleware" : Text)])
      ++ [ ("django.middleware.common.CommonMiddleware" : Text)
         , ("django.middleware.clickjacking.XFrameOptionsMiddleware" : Text) ])

def storageFor (debug : Bool) : Text :=
  if debug then "django.contrib.staticfiles.storage.StaticFilesStorage"
  else "whitenoise.storage.CompressedManifestStaticFilesStorage"

/-- The secret key: the given one unless it is empty, and a fixed one for debugging. -/
def keyFor (debug : Bool) (given : Option Text) : Except Fault Text :=
  match given with
  | some (c :: key) => .ok (c :: key)
  | _ => if debug then .ok developmentKey else .error .missingSecretKey

def load (environment : Environment) : Except Fault Deployment := do
  let debug := Environment.flag true (environment.get? "DJANGO_DEBUG")
  let secretKey ← keyFor debug (environment.get? "DJANGO_SECRET_KEY")
  let timeout ← Environment.number patience (environment.get? "FRPS_DASHBOARD_TIMEOUT")
  pure
    { debug
      secretKey
      hosts := Environment.list localHosts (environment.get? "DJANGO_ALLOWED_HOSTS")
      middleware := middlewareFor debug
      secureRedirect := Environment.flag false (environment.get? "DJANGO_SECURE_SSL_REDIRECT")
      storage := storageFor debug
      logLevel := (Environment.text "INFO" (environment.get? "DJANGO_LOG_LEVEL")).upper
      address := Environment.text localAddress (environment.get? "FRPS_DASHBOARD_URL")
      username := Environment.text [] (environment.get? "FRPS_DASHBOARD_USER")
      password := Environment.text [] (environment.get? "FRPS_DASHBOARD_PASSWORD")
      timeout
      theme := Environment.text "light" (environment.get? "FRPS_DASHBOARD_THEME")
      chartStyle := Environment.text "rich" (environment.get? "FRPS_DASHBOARD_CHART_STYLE") }

end Deployment
end Site
end TunnelBoard
