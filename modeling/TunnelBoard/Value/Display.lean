import TunnelBoard.Value.Basic
import TunnelBoard.Number.Binary64Text
import TunnelBoard.Text.Quoted

/-!
# Texts of values

A value has two texts.  The quoted one shows its kind: texts and bytes stand
between quotes, and lists and mappings show the quoted texts of their parts.
The plain one differs for texts and decimal numbers, which stand for themselves.
-/

namespace TunnelBoard
namespace Value

mutual

def quoted : Value → Text
  | .null => "None"
  | .bool b => if b then "True" else "False"
  | .int n => Text.ofInt n
  | .float x => x.toText
  | .decimal d => "Decimal('" ++ d.toText ++ "')"
  | .text t => t.quoted
  | .bytes b => Text.quotedBytes b
  | .list items => "[" ++ Text.join ", " (quotedItems items) ++ "]"
  | .map entries => "\x7b" ++ Text.join ", " (quotedEntries entries) ++ "\x7d"

def quotedItems : List Value → List Text
  | [] => []
  | v :: rest => v.quoted :: quotedItems rest

def quotedEntries : List (Value × Value) → List Text
  | [] => []
  | (k, v) :: rest => (k.quoted ++ ": " ++ v.quoted) :: quotedEntries rest

end

/-- The plain text of a value. -/
def plain : Value → Text
  | .text t => t
  | .decimal d => d.toText
  | v => v.quoted

end Value
end TunnelBoard
