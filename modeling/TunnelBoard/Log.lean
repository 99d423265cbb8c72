import TunnelBoard.Text.Basic

/-!
# Log records

A record has a level, the part of the program it comes from, and a message.
-/

namespace TunnelBoard
namespace Log

/-- How important a record is. -/
inductive Level where
  | debug
  | info
  | warning
deriving DecidableEq, Repr

/-- The parts of the program that write records. -/
inductive Source where
  | charts
  | server
  | pages
deriving DecidableEq, Repr

structure Record where
  level : Level
  source : Source
  message : Text
deriving DecidableEq, Repr

def Level.name : Level → Text
  | .debug => "DEBUG"
  | .info => "INFO"
  | .warning => "WARNING"

/-- The name a part of the program writes its records under. -/
def Source.name : Source → Text
  | .charts => "dashboard.charting.builder"
  | .server => "dashboard.client"
  | .pages => "dashboard.views"

def Record.render (r : Record) : Text :=
  r.level.name ++ " " ++ r.source.name ++ ": " ++ r.message

end Log
end TunnelBoard
