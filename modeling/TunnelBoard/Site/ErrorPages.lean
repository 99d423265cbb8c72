import TunnelBoard.Run
import TunnelBoard.Site.Config
import TunnelBoard.Site.Request
import TunnelBoard.Site.Response
import TunnelBoard.Text.Html

/-!
# Pages about errors

Every layer of the site turns a fault of what is inside it into a page.  Visitors
are only told the status.  Developers get a report: it begins with the fault and
goes on with the request, the values that the program held and the settings, so
that the credentials of the server may stand in it.

How these pages are worded is given to the site.  A report shows the
surroundings of a run that could not be written, and shows them as they are, so
that such a report cannot be written either; the layer around it then makes a
report of that.
-/

namespace TunnelBoard

/-- The status of a page about a fault: some faults are blamed on the request. -/
def Fault.status : Fault → Nat
  | .tooManyFields | .unknownHost _ _ | .longAddress _ => 400
  | _ => 500

namespace Site

/-- What a report is made of. -/
structure Scene where
  policy : Policy
  config : Config
  server : Server.Behavior
  request : Request

namespace Report

/-- The end of the table that a report begins with. -/
def divider : Text := "  </table>\n</div>\n"

/-- The part of a report with the run that could not be written. -/
def hint : Fault → Text
  | .unencodable run =>
      "<div id=\"unicode-hint\">\n    <h2>Unicode error hint</h2>\n    "
        ++ "<p>The string that could not be encoded/decoded was: <strong>"
        ++ Html.escape run.surroundings ++ "</strong></p>\n  </div>\n"
  | _ => []

/-- A report as far as the hint, which has nothing but the request and the fault in it. -/
def front (opening : Request → Fault → Text) (r : Request) (f : Fault) : Text :=
  opening r f ++ divider ++ hint f

end Report

/-- How the pages about errors are worded. -/
structure ErrorPages where
  /-- What a report says of the fault and the request before anything else. -/
  opening : Request → Fault → Text
  /-- The rest of a report. -/
  closing : Scene → Fault → Text
  /-- The page for developers about a path that is no resource. -/
  missing : Policy → Request → Text
  /-- The page for visitors about a status. -/
  plain : Nat → Text
  /-- The rest of a report shows values with escapes. -/
  isWritable_closing : ∀ scene f, (Report.front opening scene.request f).IsWritable →
    (closing scene f).IsWritable

namespace ErrorPages

variable (pages : ErrorPages)

def report (scene : Scene) (f : Fault) : Text :=
  Report.front pages.opening scene.request f ++ pages.closing scene f

/-- The page about a fault; for a report the request is read as a whole. -/
def text (scene : Scene) (f : Fault) : Except Fault Text :=
  match scene.request.exposureFault? scene.policy with
  | some exposed => .error exposed
  | none =>
      if scene.policy.debug then writable (pages.report scene f) else .ok (pages.plain f.status)

/-- The response with the page about a fault, which may have a fault of its own. -/
def response (scene : Scene) (origin : Origin) (f : Fault) : Except Fault Response := do
  let body ← pages.text scene f
  pure { Response.ofBody f.status Response.html body with origin, about := some f }

/-- The response of a layer, whose origin a page about a fault in it has. -/
def shielded (scene : Scene) (origin : Origin) (run : Run Response) : Run Response := do
  match ← run.attempt with
  | .ok response => pure response
  | .error f => Run.ofExcept (pages.response scene origin f)

/-- The response to a request for a path that is no resource. -/
def notFound (policy : Policy) (r : Request) : Response :=
  .ofBody 404 Response.html (if policy.debug then pages.missing policy r else pages.plain 404)

end ErrorPages
end Site
end TunnelBoard
