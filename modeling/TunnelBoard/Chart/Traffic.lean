import TunnelBoard.Chart.Basic
import TunnelBoard.Chart.Palette
import TunnelBoard.Counter
import TunnelBoard.Log

/-!
# The traffic chart

The chart of the bytes received and sent always has two slices.  Each value is
taken for a counter; a value that does not equal its counter is logged.
-/

namespace TunnelBoard
namespace Chart

inductive Direction where
  | ingress
  | egress
deriving DecidableEq, Repr

namespace Direction

/-- What a direction is called in the log. -/
def field : Direction → Text
  | .ingress => "ingress_bytes"
  | .egress => "egress_bytes"

def name : Direction → Text
  | .ingress => "ingress traffic"
  | .egress => "egress traffic"

def color : Direction → Text
  | .ingress => Palette.ingress
  | .egress => Palette.egress

end Direction

/-- Whether a value equals a counter; a value that must not be compared is a fault. -/
def equalsCounter (v : Value) (n : Nat) : Except Fault Bool :=
  match v.amount? with
  | some .signaling => .error .signaling
  | some amount => .ok (amount.equals (.ofInt n))
  | none => .ok false

/-- The counter a value is taken for, and the record of it if the value is not equal to it. -/
def clamp (direction : Direction) (v : Value) : Except Fault (Nat × List Log.Record) := do
  let n := Counter.ofValue v
  if ← equalsCounter v n then pure (n, [])
  else
    let message :=
      "Clamped " ++ direction.field ++ "=" ++ v.quoted ++ " to " ++ Text.ofNat n
    pure (n, [⟨.debug, .charts, message⟩])

def ofTraffic (ingress egress : Nat) (textColor : Text) (style : Style) (size : SizeFormat) :
    Chart :=
  let slice := fun (direction : Direction) (n : Nat) =>
    ({ name := direction.name, value := n, color := direction.color } : Slice)
  ofSlices "Traffic" [slice .ingress ingress, slice .egress egress] (.sizeLabel size)
    (.sizeTooltip (ingress + egress) size) textColor style

/-- The chart of two values of any kind, and what is logged about them. -/
def traffic (ingress egress : Value) (textColor : Text) (style : Style) (size : SizeFormat) :
    Except Fault (Chart × List Log.Record) := do
  let (received, first) ← clamp .ingress ingress
  let (sent, second) ← clamp .egress egress
  pure (ofTraffic received sent textColor style size, first ++ second)

end Chart
end TunnelBoard
