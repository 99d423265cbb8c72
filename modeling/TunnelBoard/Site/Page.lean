import TunnelBoard.Chart.Size
import TunnelBoard.Json.Basic
import TunnelBoard.Site.Theme
import TunnelBoard.Snapshot.Basic
import TunnelBoard.Text.Html

/-!
# The page

The page is a sequence of pieces: markup, texts that are shown, and JSON for the
script.  Markup stands in the page as it is and never depends on what a server
sends; texts and JSON are escaped.
-/

namespace TunnelBoard
namespace Site

/-- A part of a page. -/
inductive Piece where
  | markup (t : Text)
  /-- A text that is shown. -/
  | shown (t : Text)
  /-- JSON in a script element. -/
  | data (t : Text)
deriving DecidableEq, Repr

def Piece.render : Piece → Text
  | .markup t => t
  | .shown t => Html.escape t
  | .data t => Html.escapeScript t

namespace Page

def opening (theme : Theme) : List Piece :=
  [ .markup "<!DOCTYPE html>\n<html lang=\"en\" data-theme=\""
  , .shown theme.name
  , .markup ("\">\n<head>\n  <meta charset=\"utf-8\">\n  <title>frps dashboard</title>\n"
      ++ "  <style>\n    body \x7b --n-color: ")
  , .shown theme.background
  , .markup "; background: "
  , .shown theme.background
  , .markup "; color: "
  , .shown theme.text
  , .markup ("; font-family: sans-serif; \x7d\n"
      ++ "    .charts \x7b display: flex; flex-wrap: wrap; gap: 1rem; \x7d\n"
      ++ "    .chart \x7b width: 420px; height: 360px; \x7d\n"
      ++ "    h1, th \x7b color: ")
  , .shown theme.primary
  , .markup ("; text-align: left; \x7d\n    .error \x7b color: #d03050; \x7d\n  </style>\n"
      ++ "</head>\n<body>\n  <h1>frps ") ]

/-- The banner with an error; there is none for an error without a text. -/
def banner : Option Text → List Piece
  | none | some [] => []
  | some (c :: error) =>
      [.markup "<p class=\"error\" role=\"alert\">", .shown (c :: error), .markup "</p>"]

/-- A row of the table: its head, which is markup, and the text of its cell. -/
def row (head : Text) (cell : Text) : List Piece :=
  [ .markup ("    <tr><th>" ++ head ++ "</th><td>")
  , .shown cell
  , .markup "</td></tr>\n" ]

/-- The heads and cells of the table, given the sizes of the traffic. -/
def cells (s : Snapshot) (received sent : Text) : List (Text × Text) :=
  [ ("Bind port", Text.ofNat s.bindPort)
  , ("HTTP port", Text.ofNat s.httpPort)
  , ("HTTPS port", Text.ofNat s.httpsPort)
  , ("TCP mux HTTP CONNECT port", Text.ofNat s.muxPort)
  , ("KCP bind port", Text.ofNat s.kcpPort)
  , ("QUIC bind port", Text.ofNat s.quicPort)
  , ("Subdomain host", s.subdomainHost)
  , ("Allow ports", s.allowedPorts)
  , ("Max pool count", Text.ofNat s.maxPoolCount)
  , ("Max ports per client", Text.ofNat s.maxPortsPerClient)
  , ("Heartbeat timeout", Text.ofNat s.heartbeatTimeout)
  , ("TLS force", if s.tlsForced then "yes" else "no")
  , ("Clients", Text.ofNat s.clients)
  , ("Connections", Text.ofNat s.connections)
  , ("Traffic in", received)
  , ("Traffic out", sent) ]

/-- The places of the charts and the scripts that fill them. -/
def closing (charts : Text) : List Piece :=
  [ .markup ("  </table>\n  <div class=\"charts\">\n"
      ++ "    <div id=\"traffic-chart\" class=\"chart\"></div>\n"
      ++ "    <div id=\"proxy-type-chart\" class=\"chart\"></div>\n  </div>\n"
      ++ "  <script id=\"chart-options\" type=\"application/json\">")
  , .data charts
  , .markup ("</script>\n"
      ++ "  <script src=\"https://cdn.jsdelivr.net/npm/echarts@5/dist/echarts.min.js\"></script>\n"
      ++ "  <script src=\"/static/dashboard/charts.js\"></script>\n</body>\n</html>\n") ]

/-- The pieces of the page, given the sizes of the traffic and the charts as JSON. -/
def pieces (theme : Theme) (s : Snapshot) (error : Option Text) (received sent charts : Text) :
    List Piece :=
  opening theme ++ [.shown s.version, .markup "</h1>\n  "] ++ banner error
    ++ [.markup "\n  <table>\n"]
    ++ (cells s received sent).flatMap (fun (head, cell) => row head cell)
    ++ closing charts

def render (theme : Theme) (s : Snapshot) (error : Option Text) (charts : Text) :
    Except Fault Text := do
  let received ← Size.ofNat .unbroken s.trafficIn
  let sent ← Size.ofNat .unbroken s.trafficOut
  pure ((pieces theme s error received sent charts).flatMap Piece.render)

end Page
end Site
end TunnelBoard
