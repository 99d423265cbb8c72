import TunnelBoard.Server.Access
import TunnelBoard.Site.Deployment

/-!
# The configuration of the dashboard

The dashboard is configured by six values of any kind.  They are looked at when
they are needed, so a value of the wrong kind only matters to the pages that
need it.  Beside them stands the runtime, which is not configured.
-/

namespace TunnelBoard
namespace Site

structure Config where
  runtime : Server.Runtime
  address : Value
  username : Value
  password : Value
  timeout : Value
  theme : Option Value
  chartStyle : Value

namespace Config

/-- The configuration of an empty environment. -/
def default (runtime : Server.Runtime) : Config :=
  { runtime
    address := .text Deployment.localAddress
    username := .text []
    password := .text []
    timeout := .float Deployment.patience
    theme := some (.text "light")
    chartStyle := .text "rich" }

/-- The configuration with one value replaced, by the name of its variable. -/
def set (config : Config) (name : Text) (v : Value) : Config :=
  if name = "FRPS_DASHBOARD_URL" then { config with address := v }
  else if name = "FRPS_DASHBOARD_USER" then { config with username := v }
  else if name = "FRPS_DASHBOARD_PASSWORD" then { config with password := v }
  else if name = "FRPS_DASHBOARD_TIMEOUT" then { config with timeout := v }
  else if name = "FRPS_DASHBOARD_THEME" then { config with theme := some v }
  else if name = "FRPS_DASHBOARD_CHART_STYLE" then { config with chartStyle := v }
  else config

def ofDeployment (runtime : Server.Runtime) (s : Deployment) : Config :=
  { runtime
    address := .text s.address
    username := .text s.username
    password := .text s.password
    timeout := .float s.timeout
    theme := some (.text s.theme)
    chartStyle := .text s.chartStyle }

/-- A value as a floating point number. -/
def toBinary64 : Value → Except Fault Binary64
  | .float x => .ok x
  | .bool b => .ok (Binary64.ofInt (if b then 1 else 0))
  | .int n =>
      match Binary64.ofInt n with
      | .infinite _ => .error .integerTooLarge
      | x => .ok x
  | .decimal (.finite negative c e) => .ok (Binary64.ofDecimal negative c e)
  | .decimal (.infinite negative) => .ok (.infinite negative)
  | .decimal (.nan _ _ _) => .ok .nan
  | .text t =>
      match Binary64.ofText? t with
      | some x => .ok x
      | none => .error (.notNumeral t.quoted)
  | .bytes b =>
      match Binary64.ofNumeral? (Text.ofBytes b) with
      | some x => .ok x
      | none => .error (.notNumeral (Text.quotedBytes b))
  | v => .error (.notNumeric v.kindName)

def seconds (config : Config) : Except Fault Binary64 := toBinary64 config.timeout

/-- The name and the password, both empty if there is no name. -/
def credentials (config : Config) : Except Fault (Text × Text) :=
  if !config.username.isTruthy then .ok ([], [])
  else
    match config.username, config.password with
    | .text username, .text password => .ok (username, password)
    | .text _, v => .error (.credentialNotText 1 v.kindName)
    | v, _ => .error (.credentialNotText 0 v.kindName)

def access (config : Config) : Except Fault Server.Access := do
  let _ ← config.seconds
  let (username, password) ← config.credentials
  match config.address with
  | .text address => pure { runtime := config.runtime, address, username, password }
  | v => .error (.addressNotText v.kindName)

end Config
end Site
end TunnelBoard
