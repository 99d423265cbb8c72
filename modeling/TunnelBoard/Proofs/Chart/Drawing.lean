import Mathlib.Data.List.Forall2
import TunnelBoard.Chart.Drawing
import TunnelBoard.Chart.Proxies
import TunnelBoard.Chart.Traffic
import TunnelBoard.Proofs.Chart.Shares
import TunnelBoard.Proofs.Chart.Sizes
import TunnelBoard.Proofs.Json.Rereading

/-!
# Drawing charts

A chart can be drawn if its formats make a text for each of its slices.  If its
texts can be written and its numbers are not too long, the JSON of its drawing is
read back.
-/

namespace TunnelBoard

/-!
# JSON of fields
-/

namespace Json

/-- An object is readable if its names are different literals and its values are readable. -/
theorem readable_object {depth : Nat} {fields : List (Text × Json)} (names : List String)
    (hnames : fields.map Prod.fst = names.map Text.ofString)
    (hnodup : (names.map Text.ofString).Nodup)
    (hvalues : ∀ field ∈ fields, Readable depth field.2) :
    Readable (depth + 1) (.object fields) := by
  apply Readable.object ?_ (hnames ▸ hnodup) hvalues
  intro field hfield
  have hname : field.1 ∈ fields.map Prod.fst := List.mem_map_of_mem hfield
  rw [hnames] at hname
  rcases List.mem_map.mp hname with ⟨name, _, heq⟩
  rw [← heq]
  exact Text.isWritable_ofString name

theorem readable_literal {depth : Nat} (s : String) : Readable depth (.text (Text.ofString s)) :=
  .text (Text.isWritable_ofString s)

theorem readable_texts {depth : Nat} {texts : List Text} (h : ∀ t ∈ texts, t.IsWritable) :
    Readable (depth + 1) (.array (texts.map Json.text)) := by
  apply Readable.array
  intro j hj
  rcases List.mem_map.mp hj with ⟨t, ht, heq⟩
  rw [← heq]
  exact .text (h t ht)

theorem readable_ofColor {depth : Nat} {color : Text} (h : color.IsWritable) :
    Readable (depth + 1) (.ofColor color) :=
  readable_object ["color"] rfl (by decide) (List.forall_mem_singleton.mpr (.text h))

end Json

open Json

/-!
# Drawings
-/

/-- A drawn slice that can be sent. -/
structure DrawnSlice.IsSendable (slice : DrawnSlice) : Prop where
  name : slice.name.IsWritable
  value : IsShort slice.value
  color : slice.color.IsWritable
  label : slice.label.IsWritable
  tooltip : slice.tooltip.IsWritable

theorem DrawnSlice.readable_toJson {slice : DrawnSlice} (h : slice.IsSendable) {depth : Nat} :
    Readable (depth + 2) slice.toJson := by
  apply readable_object ["name", "value", "itemStyle", "label", "tooltip"] rfl (by decide)
  simp only [List.forall_mem_cons]
  exact ⟨.text h.name, .int h.value, readable_ofColor h.color, .text h.label, .text h.tooltip,
    nofun⟩

/-- A drawing that can be sent. -/
structure Drawing.IsSendable (d : Drawing) : Prop where
  title : d.title.IsWritable
  titleColor : d.titleColor.IsWritable
  legendOrient : d.legendOrient.IsWritable
  legendBottom : d.legendBottom.IsWritable
  legend : ∀ name ∈ d.legend, name.IsWritable
  legendColor : d.legendColor.IsWritable
  radius : ∀ r ∈ d.radius, r.IsWritable
  borderRadius : ∀ r ∈ d.borderRadius, IsShort r
  border : ∀ b ∈ d.border, b.color.IsWritable ∧ IsShort b.width
  labelColor : d.labelColor.IsWritable
  slices : ∀ slice ∈ d.slices, slice.IsSendable
  emphasis : ∀ e ∈ d.emphasis, IsShort e.fontSize ∧ e.color.IsWritable

namespace Drawing

theorem readable_itemStyle {d : Drawing} (h : d.IsSendable) {depth : Nat} :
    Readable (depth + 1) d.itemStyle := by
  unfold itemStyle
  cases hradius : d.borderRadius with
  | none =>
      cases hborder : d.border with
      | none => exact readable_object [] rfl (by decide) nofun
      | some border =>
          apply readable_object ["borderColor", "borderWidth"] rfl (by decide)
          simp only [Option.toList_none, List.map_nil, List.nil_append, Option.elim_some,
            Border.fields, List.forall_mem_cons]
          exact ⟨.text (h.border border hborder).1, .int (h.border border hborder).2, nofun⟩
  | some radius =>
      cases hborder : d.border with
      | none =>
          apply readable_object ["borderRadius"] rfl (by decide)
          exact List.forall_mem_singleton.mpr (.int (h.borderRadius radius hradius))
      | some border =>
          apply readable_object ["borderRadius", "borderColor", "borderWidth"] rfl (by decide)
          simp only [Option.toList_some, List.map_cons, List.map_nil, List.cons_append,
            List.nil_append, Option.elim_some, Border.fields, List.forall_mem_cons]
          exact ⟨.int (h.borderRadius radius hradius), .text (h.border border hborder).1,
            .int (h.border border hborder).2, nofun⟩

theorem readable_label {d : Drawing} (h : d.IsSendable) {depth : Nat} :
    Readable (depth + 1)
      (.object [("show", .bool d.showLabels), ("color", .text d.labelColor)]) := by
  apply readable_object ["show", "color"] rfl (by decide)
  simp only [List.forall_mem_cons]
  exact ⟨.bool _, .text h.labelColor, nofun⟩

theorem readable_emphasis {e : Emphasis}
    (h : IsShort e.fontSize ∧ e.color.IsWritable) {depth : Nat} :
    Readable (depth + 2) e.toJson := by
  apply readable_object ["label"] rfl (by decide)
  rw [List.forall_mem_singleton]
  apply readable_object ["show", "fontSize", "fontWeight", "color"] rfl (by decide)
  simp only [List.forall_mem_cons]
  exact ⟨.bool _, .int h.1, readable_literal _, .text h.2, nofun⟩

theorem readable_series {d : Drawing} (h : d.IsSendable) {depth : Nat} :
    Readable (depth + 4) d.series := by
  have hslices : Readable (depth + 3) (.array (d.slices.map DrawnSlice.toJson)) := by
    apply Readable.array
    intro j hj
    rcases List.mem_map.mp hj with ⟨slice, hslice, heq⟩
    rw [← heq]
    exact DrawnSlice.readable_toJson (h.slices slice hslice)
  unfold series
  cases hemphasis : d.emphasis with
  | none =>
      apply readable_object
        ["type", "radius", "avoidLabelOverlap", "itemStyle", "label", "data"] rfl (by decide)
      simp only [Option.toList_none, List.map_nil, List.append_nil, List.forall_mem_cons]
      exact ⟨readable_literal _, readable_texts h.radius, .bool _, readable_itemStyle h,
        readable_label h, hslices, nofun⟩
  | some emphasis =>
      apply readable_object
        ["type", "radius", "avoidLabelOverlap", "itemStyle", "label", "data", "emphasis"] rfl
        (by decide)
      simp only [Option.toList_some, List.map_cons, List.map_nil, List.cons_append,
        List.nil_append, List.forall_mem_cons]
      exact ⟨readable_literal _, readable_texts h.radius, .bool _, readable_itemStyle h,
        readable_label h, hslices, readable_emphasis (h.emphasis emphasis hemphasis), nofun⟩

theorem readable_toJson {d : Drawing} (h : d.IsSendable) {depth : Nat} :
    Readable (depth + 6) d.toJson := by
  have htitle : Readable (depth + 5) (.object
      [ ("text", .text d.title), ("left", .text "center"), ("top", .int 0)
      , ("textStyle", .ofColor d.titleColor) ]) := by
    apply readable_object ["text", "left", "top", "textStyle"] rfl (by decide)
    simp only [List.forall_mem_cons]
    exact ⟨.text h.title, readable_literal _, .int (isShort_of_lt (by decide)),
      readable_ofColor h.titleColor, nofun⟩
  have htooltip : Readable (depth + 5) (.object [("trigger", .text "item")]) :=
    readable_object ["trigger"] rfl (by decide) (List.forall_mem_singleton.mpr (readable_literal _))
  have hlegend : Readable (depth + 5) (.object
      [ ("orient", .text d.legendOrient), ("bottom", .text d.legendBottom)
      , ("left", .text "center"), ("data", .array (d.legend.map Json.text))
      , ("textStyle", .ofColor d.legendColor) ]) := by
    apply readable_object ["orient", "bottom", "left", "data", "textStyle"] rfl (by decide)
    simp only [List.forall_mem_cons]
    exact ⟨.text h.legendOrient, .text h.legendBottom, readable_literal _,
      readable_texts h.legend, readable_ofColor h.legendColor, nofun⟩
  apply readable_object ["title", "tooltip", "legend", "series"] rfl (by decide)
  simp only [List.forall_mem_cons]
  exact ⟨htitle, htooltip, hlegend, .array (List.forall_mem_singleton.mpr (readable_series h)),
    nofun⟩

end Drawing

/-!
# Charts
-/

/-- A slice can be sent, with the texts that two formats make. -/
structure Slice.IsSendable (label tooltip : SliceFormat) (slice : Slice) : Prop where
  name : slice.name.IsWritable
  value : IsShort slice.value
  color : slice.color.IsWritable
  label : ∃ t, label.apply slice = .ok t ∧ t.IsWritable
  tooltip : ∃ t, tooltip.apply slice = .ok t ∧ t.IsWritable

theorem Slice.draw_eq_ok {label tooltip : SliceFormat} {slice : Slice}
    (h : slice.IsSendable label tooltip) :
    ∃ drawn, slice.draw label tooltip = .ok drawn ∧ drawn.IsSendable := by
  rcases h.label with ⟨labelText, hlabel, hlabelText⟩
  rcases h.tooltip with ⟨tooltipText, htooltip, htooltipText⟩
  refine ⟨⟨slice.name, slice.value, slice.color, labelText, tooltipText⟩, ?_,
    ⟨h.name, h.value, h.color, hlabelText, htooltipText⟩⟩
  rw [draw, hlabel, htooltip]
  rfl

theorem mapM_eq_ok {α β : Type} {f : α → Except Fault β} {property : β → Prop} {items : List α}
    (h : ∀ a ∈ items, ∃ b, f a = .ok b ∧ property b) :
    ∃ results, items.mapM f = .ok results ∧ ∀ b ∈ results, property b := by
  induction items with
  | nil => exact ⟨[], rfl, nofun⟩
  | cons a rest ih =>
      rcases h a List.mem_cons_self with ⟨b, hb, hproperty⟩
      rcases ih fun other hother => h other (List.mem_cons_of_mem _ hother) with
        ⟨results, hresults, hproperties⟩
      refine ⟨b :: results, ?_, List.forall_mem_cons.mpr ⟨hproperty, hproperties⟩⟩
      rw [List.mapM_cons, hb, hresults]
      rfl

/-- A run over the items of a list succeeds with the results of its steps. -/
theorem mapM_eq_ok_iff {α β : Type} {f : α → Except Fault β} {items : List α} {results : List β} :
    items.mapM f = .ok results ↔ List.Forall₂ (fun a b => f a = .ok b) items results := by
  induction items generalizing results with
  | nil =>
      rw [List.mapM_nil, List.forall₂_nil_left_iff]
      constructor
      · intro h
        cases h
        rfl
      · intro h
        rw [h]
        rfl
  | cons a rest ih =>
      rw [List.mapM_cons, List.forall₂_cons_left_iff]
      constructor
      · intro h
        cases hfirst : f a with
        | error fault =>
            rw [hfirst] at h
            cases h
        | ok b =>
            cases hrest : rest.mapM f with
            | error fault =>
                rw [hfirst, hrest] at h
                cases h
            | ok others =>
                rw [hfirst, hrest] at h
                cases h
                exact ⟨b, others, rfl, ih.mp hrest, rfl⟩
      · intro h
        rcases h with ⟨b, others, hfirst, hrest, heq⟩
        rw [hfirst, ih.mpr hrest, heq]
        rfl

/-- A style that can be sent. -/
structure Style.IsSendable (style : Style) : Prop where
  radius : ∀ r ∈ style.radius, r.IsWritable
  borderRadius : IsShort style.borderRadius
  borderColor : ∀ color ∈ style.borderColor, color.IsWritable
  borderWidth : IsShort style.borderWidth
  emphasisFontSize : ∀ size ∈ style.emphasisFontSize, IsShort size
  legendOrient : style.legendOrient.IsWritable
  legendBottom : style.legendBottom.IsWritable

/-- A chart that can be sent. -/
structure Chart.IsSendable (chart : Chart) : Prop where
  title : chart.title.IsWritable
  textColor : chart.textColor.IsWritable
  legend : ∀ name ∈ chart.legend, name.IsWritable
  style : chart.style.IsSendable
  slices : ∀ slice ∈ chart.slices, slice.IsSendable chart.label chart.tooltip

theorem Chart.draw_eq_ok {chart : Chart} (h : chart.IsSendable) :
    ∃ d, chart.draw = .ok d ∧ d.IsSendable := by
  rcases mapM_eq_ok fun slice hslice => Slice.draw_eq_ok (h.slices slice hslice) with
    ⟨slices, hdraw, hslices⟩
  refine ⟨_, by rw [draw, hdraw]; rfl, ?_⟩
  have hborderRadius : ∀ r ∈ (if chart.style.borderRadius = 0 then none
      else some chart.style.borderRadius), IsShort r := by
    intro r hr
    split at hr
    · cases hr
    · cases hr
      exact h.style.borderRadius
  have hborder : ∀ b ∈ chart.style.borderColor.map fun color =>
      (⟨color, chart.style.borderWidth⟩ : Border),
        b.color.IsWritable ∧ IsShort b.width := by
    intro b hb
    rcases Option.map_eq_some_iff.mp hb with ⟨color, hcolor, heq⟩
    rw [← heq]
    exact ⟨h.style.borderColor color hcolor, h.style.borderWidth⟩
  have hemphasis : ∀ e ∈ chart.style.emphasisFontSize.map fun fontSize =>
      (⟨fontSize, chart.textColor⟩ : Emphasis),
        IsShort e.fontSize ∧ e.color.IsWritable := by
    intro e he
    rcases Option.map_eq_some_iff.mp he with ⟨fontSize, hfontSize, heq⟩
    rw [← heq]
    exact ⟨h.style.emphasisFontSize fontSize hfontSize, h.textColor⟩
  exact ⟨h.title, h.textColor, h.style.legendOrient, h.style.legendBottom, h.legend, h.textColor,
    h.style.radius, hborderRadius, hborder, h.textColor, hslices, hemphasis⟩

end TunnelBoard
