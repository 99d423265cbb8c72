import TunnelBoard.Chart.Basic
import TunnelBoard.Chart.Palette
import TunnelBoard.Log
import TunnelBoard.Snapshot.Counts

/-!
# The chart of proxies

The chart of the counts of proxies has a slice for each protocol with a positive
count, in the order of the protocols.  Names of no protocol are left out and
logged in the order of their code points.
-/

namespace TunnelBoard
namespace Chart

/-- The names in counts that are no protocol's, in the order of their code points. -/
def strangers (counts : Counts) : List Text :=
  ((counts.map Prod.fst).filter fun name => (Protocol.ofName? name).isNone).mergeSort
    fun s t => !Text.precedes t s

/-- The record of the names that are left out. -/
def strangerRecords (counts : Counts) : List Log.Record :=
  match strangers counts with
  | [] => []
  | names =>
      let message := "Ignoring unknown proxy types in chart input: " ++ Text.join ", " names
      [⟨.debug, .charts, message⟩]

/-- The slice of a protocol, if its count is positive. -/
def protocolSlice? (counts : Counts) (p : Protocol) : Option Slice :=
  match counts.get p.name with
  | 0 => none
  | n + 1 => some { name := p.name, value := (n + 1 : Nat), color := p.color }

def ofCounts (counts : Counts) (textColor : Text) (style : Style) : Chart :=
  let slices := Protocol.all.filterMap (protocolSlice? counts)
  ofSlices "Proxy Types" slices .countLabel (.countTooltip (Slice.sum slices)) textColor style

/-- The chart of the counts in a value of any kind, and what is logged about them. -/
def proxies (counts : Value) (textColor : Text) (style : Style) : Chart × List Log.Record :=
  let counts := Counts.ofValue counts
  (ofCounts counts textColor style, strangerRecords counts)

end Chart
end TunnelBoard
