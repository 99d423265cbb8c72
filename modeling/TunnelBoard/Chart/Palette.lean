import TunnelBoard.Fault
import TunnelBoard.Value.Display

/-!
# Colors of slices

The seven protocols of proxies have a fixed order and fixed colors, so a chart
looks the same whenever it is drawn.  The two directions of traffic have colors
of their own.
-/

namespace TunnelBoard

/-- The protocols a proxy can speak. -/
inductive Protocol where
  | tcp
  | udp
  | http
  | https
  | stcp
  | sudp
  | xtcp
deriving DecidableEq, Repr

namespace Protocol

def all : List Protocol := [.tcp, .udp, .http, .https, .stcp, .sudp, .xtcp]

def name : Protocol → Text
  | .tcp => "tcp"
  | .udp => "udp"
  | .http => "http"
  | .https => "https"
  | .stcp => "stcp"
  | .sudp => "sudp"
  | .xtcp => "xtcp"

def color : Protocol → Text
  | .tcp => "#5470c6"
  | .udp => "#91cc75"
  | .http => "#fac858"
  | .https => "#ee6666"
  | .stcp => "#73c0de"
  | .sudp => "#3ba272"
  | .xtcp => "#fc8452"

def ofName? (t : Text) : Option Protocol := all.find? fun p => p.name = t

/-- The protocol that a value names; values that are no texts name none. -/
def ofValue (v : Value) : Except Fault Protocol :=
  let found :=
    match v with
    | .text t => ofName? t
    | _ => none
  match found with
  | some p => .ok p
  | none => .error (.unknownProxyType v.quoted)

end Protocol

abbrev Palette := List (Protocol × Text)

namespace Palette

def standard : Palette := Protocol.all.map fun p => (p, p.color)

def without (palette : Palette) (names : List Text) : Palette :=
  palette.filter fun (p, _) => !names.contains p.name

def missing (palette : Palette) : List Protocol :=
  Protocol.all.filter fun p => !palette.any fun (q, _) => q = p

/-- Refuses a palette that lacks a color. -/
def validate (palette : Palette) : Except Fault Unit :=
  match palette.missing with
  | [] => .ok ()
  | missing => .error (.missingColors (missing.map Protocol.name))

def ingress : Text := "#91cc75"

def egress : Text := "#5470c6"

end Palette
end TunnelBoard
