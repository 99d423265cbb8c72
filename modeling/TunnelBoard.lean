import TunnelBoard.Site.Routes
import TunnelBoard.Proofs.Snapshot.Rereading
import TunnelBoard.Proofs.Chart.ReportedCounts
import TunnelBoard.Proofs.Server.Fetching
import TunnelBoard.Proofs.Site.Views
import TunnelBoard.Proofs.Chart.Percentages
import TunnelBoard.Proofs.Chart.Consistency
import TunnelBoard.Proofs.Text.Markup
import TunnelBoard.Proofs.Site.Outline
import TunnelBoard.Proofs.Site.PageContents
import TunnelBoard.Proofs.Site.Answers
import TunnelBoard.Proofs.Chart.Appearance
import TunnelBoard.Proofs.Server.Contact
import TunnelBoard.Proofs.Site.Contact
import TunnelBoard.Proofs.Url.Users
import TunnelBoard.Proofs.Server.Credentials
import TunnelBoard.Proofs.Site.Credentials
import TunnelBoard.Proofs.Number.Truncation
import TunnelBoard.Proofs.Number.Literals
import TunnelBoard.Proofs.Number.Printing
import TunnelBoard.Proofs.Counter
import TunnelBoard.Proofs.Chart.Conservation
import TunnelBoard.Proofs.Chart.SameData
import TunnelBoard.Proofs.Chart.SameDrawing
import TunnelBoard.Proofs.Number.Nearest
import TunnelBoard.Proofs.Chart.SizeOrder
import TunnelBoard.Proofs.Site.Styles
import TunnelBoard.Proofs.Site.Themes
import TunnelBoard.Proofs.Site.EnvironmentLists
import TunnelBoard.Proofs.Snapshot.Grouping
import TunnelBoard.Proofs.Number.FloatingLiterals
import TunnelBoard.Proofs.Text.Scripts
import TunnelBoard.Proofs.Number.ScriptLiterals
import TunnelBoard.Proofs.Site.Loading
import TunnelBoard.Proofs.Site.ErrorPages
import TunnelBoard.Proofs.Site.Deployed
