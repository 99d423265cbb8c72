import TunnelBoard.Chart.Basic
import TunnelBoard.Json.Basic

/-!
# Drawings

A drawing is a chart without its formats: every slice carries the label and the
tooltip that the formats make.  It is what the browser gets, as JSON.
-/

namespace TunnelBoard

@[ext]
structure DrawnSlice where
  name : Text
  value : Int
  color : Text
  label : Text
  tooltip : Text
deriving DecidableEq, Repr

/-- How the border of the slices is drawn. -/
@[ext]
structure Border where
  color : Text
  width : Int
deriving DecidableEq, Repr

/-- How the label under the pointer stands out. -/
@[ext]
structure Emphasis where
  fontSize : Int
  color : Text
deriving DecidableEq, Repr

/-- What the browser draws. -/
@[ext]
structure Drawing where
  title : Text
  titleColor : Text
  legendOrient : Text
  legendBottom : Text
  legend : List Text
  legendColor : Text
  radius : List Text
  avoidLabelOverlap : Bool
  /-- The radius of the corners of the slices, if it is not zero. -/
  borderRadius : Option Int
  border : Option Border
  showLabels : Bool
  labelColor : Text
  slices : List DrawnSlice
  emphasis : Option Emphasis
deriving DecidableEq, Repr

def Slice.draw (label tooltip : SliceFormat) (slice : Slice) : Except Fault DrawnSlice := do
  let labelText ← label.apply slice
  let tooltipText ← tooltip.apply slice
  pure
    { name := slice.name
      value := slice.value
      color := slice.color
      label := labelText
      tooltip := tooltipText }

def Chart.draw (chart : Chart) : Except Fault Drawing := do
  let slices ← chart.slices.mapM (Slice.draw chart.label chart.tooltip)
  let style := chart.style
  pure
    { title := chart.title
      titleColor := chart.textColor
      legendOrient := style.legendOrient
      legendBottom := style.legendBottom
      legend := chart.legend
      legendColor := chart.textColor
      radius := style.radius
      avoidLabelOverlap := style.avoidLabelOverlap
      borderRadius := if style.borderRadius = 0 then none else some style.borderRadius
      border := style.borderColor.map fun color => { color, width := style.borderWidth }
      showLabels := style.showLabels
      labelColor := chart.textColor
      slices
      emphasis :=
        style.emphasisFontSize.map fun fontSize => { fontSize, color := chart.textColor } }

/-!
# As JSON
-/

def Json.ofColor (color : Text) : Json := .object [("color", .text color)]

def DrawnSlice.toJson (slice : DrawnSlice) : Json :=
  .object
    [ ("name", .text slice.name)
    , ("value", .int slice.value)
    , ("itemStyle", .ofColor slice.color)
    , ("label", .text slice.label)
    , ("tooltip", .text slice.tooltip) ]

def Border.fields (border : Border) : List (Text × Json) :=
  [("borderColor", .text border.color), ("borderWidth", .int border.width)]

def Emphasis.toJson (emphasis : Emphasis) : Json :=
  .object
    [ ("label", .object
        [ ("show", .bool true)
        , ("fontSize", .int emphasis.fontSize)
        , ("fontWeight", .text "bold")
        , ("color", .text emphasis.color) ]) ]

namespace Drawing

def itemStyle (d : Drawing) : Json :=
  .object
    (d.borderRadius.toList.map (fun r => (("borderRadius" : Text), Json.int r))
      ++ d.border.elim [] Border.fields)

def series (d : Drawing) : Json :=
  .object
    ([ (("type" : Text), Json.text "pie")
     , ("radius", .array (d.radius.map Json.text))
     , ("avoidLabelOverlap", .bool d.avoidLabelOverlap)
     , ("itemStyle", d.itemStyle)
     , ("label", .object [("show", .bool d.showLabels), ("color", .text d.labelColor)])
     , ("data", .array (d.slices.map DrawnSlice.toJson)) ]
      ++ d.emphasis.toList.map fun e => (("emphasis" : Text), e.toJson))

def toJson (d : Drawing) : Json :=
  .object
    [ ("title", .object
        [ ("text", .text d.title)
        , ("left", .text "center")
        , ("top", .int 0)
        , ("textStyle", .ofColor d.titleColor) ])
    , ("tooltip", .object [("trigger", .text "item")])
    , ("legend", .object
        [ ("orient", .text d.legendOrient)
        , ("bottom", .text d.legendBottom)
        , ("left", .text "center")
        , ("data", .array (d.legend.map Json.text))
        , ("textStyle", .ofColor d.legendColor) ])
    , ("series", .array [d.series]) ]

end Drawing
end TunnelBoard
