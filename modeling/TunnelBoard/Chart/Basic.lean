import TunnelBoard.Chart.Slice
import TunnelBoard.Chart.Style

/-!
# Charts

A chart says what is drawn: a title, slices, legend entries and the formats of
labels and tooltips, together with a style and a text color.
-/

namespace TunnelBoard

structure Chart where
  title : Text
  slices : List Slice
  legend : List Text
  tooltip : SliceFormat
  label : SliceFormat
  textColor : Text
  style : Style

namespace Chart

def total (chart : Chart) : Int := Slice.sum chart.slices

def isEmpty (chart : Chart) : Bool := chart.slices.isEmpty

/-- A chart whose legend names its slices in their order. -/
def ofSlices (title : Text) (slices : List Slice) (label tooltip : SliceFormat) (textColor : Text)
    (style : Style) : Chart :=
  { title, slices, legend := slices.map Slice.name, tooltip, label, textColor, style }

def labels (chart : Chart) : Except Fault (List Text) := chart.slices.mapM chart.label.apply

def tooltips (chart : Chart) : Except Fault (List Text) := chart.slices.mapM chart.tooltip.apply

end Chart
end TunnelBoard
