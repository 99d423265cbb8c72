import TunnelBoard.Proofs.Chart.Appearance

/-!
# Charts with the same drawing

The JSON of a drawing keeps all of a chart that can be seen.  Two charts have the
same JSON if and only if they agree on what is drawn: on the title, the text
color, the legend, the slices with their texts, and on the style.  Of the style,
the key is not drawn, and the width of the border is not drawn without a border.
-/

namespace TunnelBoard

/-!
# Charts that are drawn alike
-/

/-- Two styles agree on everything that is drawn. -/
structure Style.DrawsAlike (first second : Style) : Prop where
  radius : first.radius = second.radius
  borderRadius : first.borderRadius = second.borderRadius
  borderColor : first.borderColor = second.borderColor
  borderWidth : first.borderColor ≠ none → first.borderWidth = second.borderWidth
  avoidLabelOverlap : first.avoidLabelOverlap = second.avoidLabelOverlap
  showLabels : first.showLabels = second.showLabels
  emphasisFontSize : first.emphasisFontSize = second.emphasisFontSize
  legendOrient : first.legendOrient = second.legendOrient
  legendBottom : first.legendBottom = second.legendBottom

/-- Two charts agree on everything that is drawn. -/
structure Chart.DrawsAlike (first second : Chart) : Prop where
  title : first.title = second.title
  textColor : first.textColor = second.textColor
  legend : first.legend = second.legend
  slices : first.slices = second.slices
  labels : ∀ slice ∈ first.slices, first.label.apply slice = second.label.apply slice
  tooltips : ∀ slice ∈ first.slices, first.tooltip.apply slice = second.tooltip.apply slice
  style : first.style.DrawsAlike second.style

/-!
# Drawings with the same JSON

A part that may be missing is read off a place of its own.
-/

open Json

theorem DrawnSlice.eq_of_same (item other : DrawnSlice) (h : Same item.toJson other.toJson) :
    item = other := by
  have hname := (h.part [.field "name"] rfl rfl).text_inj
  have hvalue := (h.part [.field "value"] rfl rfl).int_inj
  have hcolor := (h.part [.field "itemStyle", .field "color"] rfl rfl).text_inj
  have hlabel := (h.part [.field "label"] rfl rfl).text_inj
  have htooltip := (h.part [.field "tooltip"] rfl rfl).text_inj
  exact DrawnSlice.ext hname hvalue hcolor hlabel htooltip

theorem Emphasis.eq_of_same (emphasis other : Emphasis)
    (h : Same emphasis.toJson other.toJson) : emphasis = other := by
  have hfontSize := (h.part [.field "label", .field "fontSize"] rfl rfl).int_inj
  have hcolor := (h.part [.field "label", .field "color"] rfl rfl).text_inj
  exact Emphasis.ext hfontSize hcolor

theorem Border.eq_of_map {border other : Option Border}
    (hcolor : border.map Border.color = other.map Border.color)
    (hwidth : border.map Border.width = other.map Border.width) : border = other := by
  cases border with
  | none => exact (Option.map_eq_none_iff.mp hcolor.symm).symm
  | some first =>
      cases other with
      | none => cases hcolor
      | some second =>
          rw [Border.ext (Option.some.inj hcolor) (Option.some.inj hwidth)]

namespace Drawing

section

variable (d : Drawing)

theorem at?_borderRadius : d.itemStyle.at? [.field "borderRadius"] = d.borderRadius.map .int := by
  unfold itemStyle
  cases d.borderRadius with
  | none => cases d.border <;> rfl
  | some radius => rfl

theorem at?_borderColor :
    d.itemStyle.at? [.field "borderColor"] = (d.border.map Border.color).map .text := by
  unfold itemStyle
  cases d.borderRadius <;> cases d.border <;> rfl

theorem at?_borderWidth :
    d.itemStyle.at? [.field "borderWidth"] = (d.border.map Border.width).map .int := by
  unfold itemStyle
  cases d.borderRadius <;> cases d.border <;> rfl

theorem at?_emphasis : d.series.at? [.field "emphasis"] = d.emphasis.map Emphasis.toJson := by
  unfold series
  cases d.emphasis <;> rfl

end

theorem eq_of_same {d e : Drawing} (h : Same d.toJson e.toJson) : d = e := by
  have hseries : Same d.series e.series := h.part seriesPlace rfl rfl
  have hitemStyle : Same d.itemStyle e.itemStyle := hseries.part [.field "itemStyle"] rfl rfl
  have htitle := (h.part [.field "title", .field "text"] rfl rfl).text_inj
  have htitleColor :=
    (h.part [.field "title", .field "textStyle", .field "color"] rfl rfl).text_inj
  have hlegendOrient := (h.part [.field "legend", .field "orient"] rfl rfl).text_inj
  have hlegendBottom := (h.part [.field "legend", .field "bottom"] rfl rfl).text_inj
  have hlegend : d.legend = e.legend :=
    (h.part [.field "legend", .field "data"] rfl rfl).array_inj fun _ _ => Same.text_inj
  have hlegendColor :=
    (h.part [.field "legend", .field "textStyle", .field "color"] rfl rfl).text_inj
  have hradius : d.radius = e.radius :=
    (hseries.part [.field "radius"] rfl rfl).array_inj fun _ _ => Same.text_inj
  have havoid := (hseries.part [.field "avoidLabelOverlap"] rfl rfl).bool_inj
  have hborderRadius : d.borderRadius = e.borderRadius :=
    hitemStyle.option_inj (fun _ _ => Same.int_inj) d.at?_borderRadius e.at?_borderRadius
  have hborder : d.border = e.border :=
    Border.eq_of_map
      (hitemStyle.option_inj (fun _ _ => Same.text_inj) d.at?_borderColor e.at?_borderColor)
      (hitemStyle.option_inj (fun _ _ => Same.int_inj) d.at?_borderWidth e.at?_borderWidth)
  have hshow := (hseries.part [.field "label", .field "show"] rfl rfl).bool_inj
  have hlabelColor := (hseries.part [.field "label", .field "color"] rfl rfl).text_inj
  have hslices : d.slices = e.slices :=
    (hseries.part [.field "data"] rfl rfl).array_inj DrawnSlice.eq_of_same
  have hemphasis : d.emphasis = e.emphasis :=
    hseries.option_inj Emphasis.eq_of_same d.at?_emphasis e.at?_emphasis
  exact Drawing.ext htitle htitleColor hlegendOrient hlegendBottom hlegend hlegendColor hradius
    havoid hborderRadius hborder hshow hlabelColor hslices hemphasis

theorem same_toJson_iff {d e : Drawing} : Same d.toJson e.toJson ↔ d = e := by
  constructor
  · exact eq_of_same
  · intro h
    exact .of_eq (congrArg toJson h)

theorem toJson_inj {d e : Drawing} : d.toJson = e.toJson ↔ d = e := by
  constructor
  · intro h
    exact eq_of_same (.of_eq h)
  · exact congrArg toJson

end Drawing

/-!
# Styles
-/

theorem Style.borderRadius_eq_iff (m n : Int) :
    (if m = 0 then none else some m) = (if n = 0 then none else some n) ↔ m = n := by
  constructor
  · intro h
    split at h
    case isTrue hm =>
      split at h
      case isTrue hn => rw [hm, hn]
      case isFalse => cases h
    case isFalse =>
      split at h
      case isTrue => cases h
      case isFalse => exact Option.some.inj h
  · intro h
    rw [h]

theorem Style.border_eq_iff (first second : Style) :
    (first.borderColor.map fun color => Border.mk color first.borderWidth) =
        (second.borderColor.map fun color => Border.mk color second.borderWidth) ↔
      first.borderColor = second.borderColor ∧
        (first.borderColor ≠ none → first.borderWidth = second.borderWidth) := by
  cases first.borderColor with
  | none =>
      cases second.borderColor with
      | none => simp
      | some color => simp
  | some color =>
      cases second.borderColor with
      | none => simp
      | some other => simp

theorem Style.emphasis_eq_iff (textColor : Text) (size other : Option Int) :
    (size.map fun fontSize => Emphasis.mk fontSize textColor) =
        (other.map fun fontSize => Emphasis.mk fontSize textColor) ↔ size = other := by
  cases size <;> cases other <;> simp

theorem Drawing.dressed_eq_iff {title otherTitle : Text} {legend otherLegend : List Text}
    {items otherItems : List DrawnSlice} {textColor otherColor : Text} {first second : Style} :
    dressed title legend items textColor first =
        dressed otherTitle otherLegend otherItems otherColor second ↔
      title = otherTitle ∧ legend = otherLegend ∧ items = otherItems ∧ textColor = otherColor ∧
        first.DrawsAlike second := by
  constructor
  · intro h
    rw [dressed, dressed, Drawing.mk.injEq] at h
    rcases h with ⟨htitle, htextColor, horient, hbottom, hlegend, _, hradius, havoid,
      hborderRadius, hborder, hshow, _, hitems, hemphasis⟩
    rw [Style.borderRadius_eq_iff] at hborderRadius
    rw [Style.border_eq_iff] at hborder
    rw [htextColor, Style.emphasis_eq_iff] at hemphasis
    exact ⟨htitle, hlegend, hitems, htextColor, hradius, hborderRadius, hborder.1, hborder.2,
      havoid, hshow, hemphasis, horient, hbottom⟩
  · rintro ⟨htitle, hlegend, hitems, htextColor, h⟩
    rw [htitle, hlegend, hitems, htextColor, dressed, dressed, Drawing.mk.injEq,
      Style.borderRadius_eq_iff, Style.border_eq_iff, Style.emphasis_eq_iff]
    exact ⟨rfl, rfl, h.legendOrient, h.legendBottom, rfl, rfl, h.radius, h.avoidLabelOverlap,
      h.borderRadius, ⟨h.borderColor, h.borderWidth⟩, h.showLabels, rfl, rfl, h.emphasisFontSize⟩

/-!
# Slices

A slice can be read off its item, and so can the texts that the formats make of it.
-/

section

variable {label tooltip otherLabel otherTooltip : SliceFormat}

theorem Slice.item_eq_iff {slice other : Slice} {item otherItem : DrawnSlice}
    (h : slice.IsDrawnAs label tooltip item)
    (hother : other.IsDrawnAs otherLabel otherTooltip otherItem) :
    item = otherItem ↔ slice = other ∧ label.apply slice = otherLabel.apply slice ∧
      tooltip.apply slice = otherTooltip.apply slice := by
  constructor
  · intro heq
    rw [← heq] at hother
    have hslice : slice = other :=
      Slice.ext (h.name.symm.trans hother.name) (h.value.symm.trans hother.value)
        (h.color.symm.trans hother.color)
    rw [← hslice] at hother
    exact ⟨hslice, h.label.trans hother.label.symm, h.tooltip.trans hother.tooltip.symm⟩
  · rintro ⟨hslice, hlabel, htooltip⟩
    rw [← hslice] at hother
    have hlabels := h.label.symm.trans (hlabel.trans hother.label)
    have htooltips := h.tooltip.symm.trans (htooltip.trans hother.tooltip)
    exact DrawnSlice.ext (h.name.trans hother.name.symm) (h.value.trans hother.value.symm)
      (h.color.trans hother.color.symm) (Except.ok.inj hlabels) (Except.ok.inj htooltips)

theorem Slice.items_eq_iff {slices others : List Slice} {items otherItems : List DrawnSlice}
    (h : List.Forall₂ (IsDrawnAs label tooltip) slices items)
    (hothers : List.Forall₂ (IsDrawnAs otherLabel otherTooltip) others otherItems) :
    items = otherItems ↔ slices = others ∧
      ∀ slice ∈ slices, label.apply slice = otherLabel.apply slice ∧
        tooltip.apply slice = otherTooltip.apply slice := by
  induction h generalizing others otherItems with
  | nil => cases hothers <;> simp
  | cons hfirst _ ih =>
      cases hothers with
      | nil => simp
      | cons hother hrest =>
          rw [List.cons.injEq, List.cons.injEq, item_eq_iff hfirst hother, ih hrest,
            List.forall_mem_cons]
          constructor
          · rintro ⟨⟨hslice, htexts⟩, hslices, hall⟩
            exact ⟨⟨hslice, hslices⟩, htexts, hall⟩
          · rintro ⟨⟨hslice, hslices⟩, htexts, hall⟩
            exact ⟨⟨hslice, htexts⟩, hslices, hall⟩

end

/-!
# Charts
-/

namespace Chart

theorem draw_eq_ok_iff {chart : Chart} {d : Drawing} :
    chart.draw = .ok d ↔ ∃ items,
      List.Forall₂ (Slice.IsDrawnAs chart.label chart.tooltip) chart.slices items ∧
        d = .dressed chart.title chart.legend items chart.textColor chart.style := by
  constructor
  · intro h
    cases hitems : chart.slices.mapM (Slice.draw chart.label chart.tooltip) with
    | error f =>
        rw [draw, hitems] at h
        cases h
    | ok items =>
        rw [draw_eq_dressed hitems] at h
        exact ⟨items, (mapM_eq_ok_iff.mp hitems).imp fun _ _ => Slice.draw_eq_ok_iff.mp,
          (Except.ok.inj h).symm⟩
  · rintro ⟨items, hitems, heq⟩
    rw [heq]
    exact draw_eq_dressed (mapM_eq_ok_iff.mpr (hitems.imp fun _ _ => Slice.draw_eq_ok_iff.mpr))

theorem drawing_eq_iff {first second : Chart} {d e : Drawing} (hfirst : first.draw = .ok d)
    (hsecond : second.draw = .ok e) : d = e ↔ first.DrawsAlike second := by
  rcases draw_eq_ok_iff.mp hfirst with ⟨items, hitems, hd⟩
  rcases draw_eq_ok_iff.mp hsecond with ⟨otherItems, hotherItems, he⟩
  rw [hd, he, Drawing.dressed_eq_iff, Slice.items_eq_iff hitems hotherItems]
  constructor
  · rintro ⟨htitle, hlegend, ⟨hslices, htexts⟩, htextColor, hstyle⟩
    exact ⟨htitle, htextColor, hlegend, hslices, fun slice hslice => (htexts slice hslice).1,
      fun slice hslice => (htexts slice hslice).2, hstyle⟩
  · intro h
    exact ⟨h.title, h.legend, ⟨h.slices, fun slice hslice =>
      ⟨h.labels slice hslice, h.tooltips slice hslice⟩⟩, h.textColor, h.style⟩

/--
Nothing that is drawn is lost in the JSON of a drawing: two charts that can be
drawn have the same JSON, in the same order or in any order of the fields, if and
only if they agree on everything that is drawn.
-/
theorem drawings_same_iff {first second : Chart} {d e : Drawing} (hfirst : first.draw = .ok d)
    (hsecond : second.draw = .ok e) :
    (d.toJson = e.toJson ↔ first.DrawsAlike second) ∧
      (d.toJson.Same e.toJson ↔ first.DrawsAlike second) := by
  rw [Drawing.toJson_inj, Drawing.same_toJson_iff]
  exact ⟨drawing_eq_iff hfirst hsecond, drawing_eq_iff hfirst hsecond⟩

/-- A pie of one slice, which counts nothing. -/
def emptyPie : Chart :=
  ofSlices "Pie" [⟨"tcp", 0, "red"⟩] .countLabel (.countTooltip 0) "#333" .plain

/-- The same pie with a label of the caller's own, and another key and width in its style. -/
def emptyPieAlike : Chart :=
  { emptyPie with
    label := .custom fun slice => .ok (slice.name ++ ": 0")
    style := { Style.plain with key := "bare", borderWidth := 1 } }

theorem drawings_same_without_border :
    ∃ d e, emptyPie.draw = .ok d ∧ emptyPieAlike.draw = .ok e ∧ d.toJson = e.toJson := by
  refine ⟨_, _, rfl, rfl, (@drawings_same_iff emptyPie emptyPieAlike _ _ rfl rfl).1.mpr ?_⟩
  constructor
  case labels => exact List.forall_mem_singleton.mpr rfl
  case tooltips => exact List.forall_mem_singleton.mpr rfl
  case style =>
    constructor
    case borderWidth => exact fun h => absurd rfl h
    all_goals rfl
  all_goals rfl

end Chart
end TunnelBoard
