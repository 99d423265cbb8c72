import TunnelBoard.Fault
import TunnelBoard.Text.Blank
import TunnelBoard.Text.Lower
import TunnelBoard.Value.Display

/-!
# Styles of pie charts

A style is how a pie is drawn, apart from its data and its text color.  There
are two presets: a ring with bordered slices, and a plain pie.
-/

namespace TunnelBoard

structure Style where
  key : Text
  /-- The inner and the outer radius. -/
  radius : List Text
  borderRadius : Int := 0
  borderColor : Option Text := none
  borderWidth : Int := 0
  avoidLabelOverlap : Bool := true
  showLabels : Bool := true
  /-- The size of the label under the pointer, if labels stand out there. -/
  emphasisFontSize : Option Int := none
  legendOrient : Text := "horizontal"
  legendBottom : Text := "5%"
deriving DecidableEq, Repr

namespace Style

/-- The ring with bordered slices. -/
def rich : Style :=
  { key := "rich"
    radius := ["40%", "70%"]
    borderRadius := 10
    borderColor := some "var(--n-color)"
    borderWidth := 2
    emphasisFontSize := some 20 }

def plain : Style :=
  { key := "plain"
    radius := ["0%", "70%"] }

/-- The preset a text names, with blanks around it and in any case. -/
def ofName? (name : Text) : Option Style :=
  let key := name.trim.lower
  if key = rich.key then some rich
  else if key = plain.key then some plain
  else none

def ofName (name : Text) : Except Fault Style :=
  match ofName? name with
  | some style => .ok style
  | none => .error (.unknownStyle name.quoted)

/-- The preset a value names; bytes can be trimmed like a text but name none. -/
def ofValue : Value → Except Fault Style
  | .text name => ofName name
  | .bytes b => .error (.unknownStyle (Value.bytes b).quoted)
  | v => .error (.styleNotText v.kindName)

end Style
end TunnelBoard
