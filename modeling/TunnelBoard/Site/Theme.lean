import TunnelBoard.Text.Blank
import TunnelBoard.Text.Lower
import TunnelBoard.Value.Display

/-!
# Themes

A theme is a row of colors under a name.  Which theme a page has is decided by
its query, by a cookie, or by the configuration, in this order; a name that is
not known gives the light theme.
-/

namespace TunnelBoard
namespace Site

/-- The colors of a page. -/
structure Theme where
  name : Text
  primary : Text
  background : Text
  text : Text
deriving DecidableEq, Repr

namespace Theme

def defaultTextColor : Text := "#333"

/-- Dark text on white. -/
def light : Theme :=
  { name := "light"
    primary := "#2196F3"
    background := "#ffffff"
    text := defaultTextColor }

/-- Light text on almost black. -/
def dark : Theme :=
  { name := "dark"
    primary := "#2196F3"
    background := "#18181c"
    text := "rgba(255, 255, 255, 0.82)" }

def ofName? (name : Text) : Option Theme :=
  if name = light.name then some light
  else if name = dark.name then some dark
  else none

/-- The text color under a name, which may be unknown or have no text color. -/
def textColor (name : Text) : Text :=
  match ofName? name with
  | some theme => if theme.text.isEmpty then defaultTextColor else theme.text
  | none => defaultTextColor

/-- What a page is given under a name; each of the parts has a fallback of its own. -/
def ofName (name : Text) : Theme :=
  let tokens := (ofName? name).getD light
  { name := if (ofName? name).isSome then name else light.name
    primary := tokens.primary
    background := tokens.background
    text := textColor name }

/-- The first text that is given and not empty. -/
def firstGiven (texts : List (Option Text)) : Option Text :=
  texts.findSome? fun t => t.filter fun t => !t.isEmpty

/-- The name of the theme to use, known or not. -/
def requested (query cookie : Option Text) (setting : Option Value) : Text :=
  let chosen := (firstGiven [query, cookie]).getD ((setting.map Value.plain).getD light.name)
  chosen.trim.lower

end Theme
end Site
end TunnelBoard
