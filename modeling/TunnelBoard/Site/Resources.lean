import TunnelBoard.Chart.Drawing
import TunnelBoard.Chart.Proxies
import TunnelBoard.Chart.Traffic
import TunnelBoard.Site.Config
import TunnelBoard.Site.Page
import TunnelBoard.Site.Request
import TunnelBoard.Site.Response

/-!
# Resources

The site shows the state of the server in three ways: as a page, as JSON, and as
the JSON of its charts.  A resource asks the server at most once.  The page is
shown without a state too, with the reason in a banner; the other two resources
answer with the reason alone.
-/

namespace TunnelBoard
namespace Site

/-!
# Style and theme
-/

/-- The configured style; a name of no style is logged and gives the rich style. -/
def configuredStyle (config : Config) : Run Style :=
  match Style.ofValue config.chartStyle with
  | .ok style => pure style
  | .error (.unknownStyle shown) => do
      Run.log .warning .pages
        ("Invalid FRPS_DASHBOARD_CHART_STYLE, using 'rich': " ++ (Fault.unknownStyle shown).message)
      pure Style.rich
  | .error f => Run.fail f

/-- The style a query names, or the configured one; a name of no style is an error of its own. -/
def requestedStyle (config : Config) (query : Query) : Run (Except Fault Style) :=
  match Theme.firstGiven [query.last? "style"] with
  | some name => pure (Style.ofName name)
  | none => do
      let style ← configuredStyle config
      pure (.ok style)

/-- The name of the cookie with the name of a theme. -/
def themeCookie : Text := "frps_theme"

def requestedTheme (config : Config) (query : Query) (r : Request) : Except Fault Theme := do
  let cookies ← r.readCookies
  let name := Theme.requested (query.last? "theme") (cookies.last? themeCookie) config.theme
  pure (Theme.ofName name)

/-!
# The state of the server
-/

def fetch (config : Config) (server : Server.Behavior) : Run Snapshot := do
  let access ← Run.ofExcept config.access
  access.fetch server

/-- Asks the server for its state; the reason why there is none is a result. -/
def tryFetch (config : Config) (server : Server.Behavior) :
    Run (Except Server.Unavailable Snapshot) := do
  match ← (fetch config server).attempt with
  | .ok s => pure (.ok s)
  | .error (.unavailable cause) => pure (.error cause)
  | .error f => Run.fail f

def errorJson (message : Text) : Json := .object [("ok", .bool false), ("error", .text message)]

def chartsJson (s : Snapshot) (textColor : Text) (style : Style) : Run Json := do
  let (traffic, records) ←
    Run.ofExcept
      (Chart.traffic (.int s.trafficIn) (.int s.trafficOut) textColor style .humanized)
  Run.logAll records
  let trafficDrawing ← Run.ofExcept traffic.draw
  let (proxies, records) := Chart.proxies s.proxies.toValue textColor style
  Run.logAll records
  let proxiesDrawing ← Run.ofExcept proxies.draw
  pure (.object [("traffic", trafficDrawing.toJson), ("proxyTypes", proxiesDrawing.toJson)])

/-!
# Resources
-/

/-- What the page of the dashboard shows. -/
structure Overview where
  theme : Theme
  snapshot : Snapshot
  /-- Why there is no state of the server, if there is none. -/
  error : Option Text
  style : Text
  charts : Json

/-- The style of the page; a query that names no style gets the configured one, too. -/
def shownStyle (config : Config) (query : Query) : Run Style := do
  match ← requestedStyle config query with
  | .ok style => pure style
  | .error f => do
      Run.log .info .pages ("Falling back to the configured chart style: " ++ f.message)
      configuredStyle config

/-- The state on the page; without one, the empty state and the reason. -/
def shownState (config : Config) (server : Server.Behavior) : Run (Snapshot × Option Text) := do
  match ← tryFetch config server with
  | .ok s => pure (s, none)
  | .error cause => pure (Snapshot.empty, some cause.message)

/-- Gathers what the page of the dashboard shows. -/
def overview (policy : Policy) (config : Config) (server : Server.Behavior) (r : Request) :
    Run Overview := do
  let query ← Run.ofExcept (r.fields policy)
  let theme ← Run.ofExcept (requestedTheme config query r)
  let style ← shownStyle config query
  let (snapshot, error) ← shownState config server
  let charts ← chartsJson snapshot theme.text style
  pure { theme, snapshot, error, style := style.key, charts }

/-- What the template of the page is given. -/
def Overview.context (o : Overview) : PageContext := ⟨o.error, o.style, o.charts.render⟩

/-- The response with the page, whose text has to be written in UTF-8. -/
def Overview.page (o : Overview) : Except Fault Response := do
  let text ← Page.render o.theme o.snapshot o.error o.charts.render
  let text ← writable text
  pure
    { Response.ofBody 200 Response.html text with
      context := some o.context }

def overviewPage (policy : Policy) (config : Config) (server : Server.Behavior) (r : Request) :
    Run Response := do
  let o ← overview policy config server r
  Run.ofExcept o.page

def snapshotData (config : Config) (server : Server.Behavior) : Run Response := do
  match ← tryFetch config server with
  | .ok s => pure (.ofJson 200 s.toJson)
  | .error cause => pure (.ofJson 502 (errorJson cause.message))

def chartsData (policy : Policy) (config : Config) (server : Server.Behavior) (r : Request) :
    Run Response := do
  let query ← Run.ofExcept (r.fields policy)
  match ← requestedStyle config query with
  | .error f => pure (.ofJson 400 (errorJson f.message))
  | .ok style => do
      match ← tryFetch config server with
      | .error cause => pure (.ofJson 502 (errorJson cause.message))
      | .ok s => do
          let theme ← Run.ofExcept (requestedTheme config query r)
          let charts ← chartsJson s theme.text style
          pure (.ofJson 200 charts)

def healthReply : Response := .ofBody 200 Response.html []

end Site
end TunnelBoard
