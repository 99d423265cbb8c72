import TunnelBoard.Proofs.Chart.Consistency

/-!
# The appearance of drawings

A chart is drawn in a text color and in a style.  Neither has a say in what is
drawn: another text color shows at the four places of typography and nowhere
else, and another style shows at most in the seven fields of the layout.  Titles,
items, their values, colors, labels and tooltips, and the legend stay the same.
-/

namespace TunnelBoard

/-!
# Places of the appearance
-/

namespace Drawing

/-- The place of the only series. -/
def seriesPlace : Json.Place := [.field "series", .item 0]

/-- The places of the text color in every drawing. -/
def fixedColorPlaces : List Json.Place :=
  [ [.field "title", .field "textStyle", .field "color"]
  , [.field "legend", .field "textStyle", .field "color"]
  , seriesPlace ++ [.field "label", .field "color"] ]

/-- The place of the text color in drawings whose labels stand out under the pointer. -/
def emphasisColorPlace : Json.Place :=
  seriesPlace ++ [.field "emphasis", .field "label", .field "color"]

def colorPlaces : List Json.Place := fixedColorPlaces ++ [emphasisColorPlace]

/-- The fields of the layout, each with the place of its object. -/
def layoutFields : List (Json.Place × Text) :=
  [ (seriesPlace, "radius"), (seriesPlace, "avoidLabelOverlap"), (seriesPlace, "itemStyle")
  , (seriesPlace ++ [.field "label"], "show"), (seriesPlace, "emphasis")
  , ([.field "legend"], "orient"), ([.field "legend"], "bottom") ]

end Drawing

namespace Json

/-- The JSON of a drawing with a text color put at the places of the text color. -/
def recolored (textColor : Text) (drawing : Json) : Json :=
  Drawing.colorPlaces.foldl (fun j place => put (.text textColor) place j) drawing

/-- The JSON of a drawing without the fields of the layout. -/
def withoutLayout (drawing : Json) : Json :=
  Drawing.layoutFields.foldl (fun j field => j.drop field.1 field.2) drawing

/-- A text color stands at the places of the text color. -/
structure ShowsColor (textColor : Text) (drawing : Json) : Prop where
  fixed : ∀ place ∈ Drawing.fixedColorPlaces, drawing.at? place = some (.text textColor)
  emphasis : ∀ j, drawing.at? Drawing.emphasisColorPlace = some j → j = .text textColor

/-- Two drawings differ in the text color and in nothing else. -/
structure DiffersInColor (c d : Text) (first second : Json) : Prop where
  before : first.ShowsColor c
  after : second.ShowsColor d
  recolored : second = first.recolored d
  elsewhere : ∀ q, (∀ place ∈ Drawing.colorPlaces, Apart place q) → second.at? q = first.at? q

/-- Two drawings differ at most in the layout. -/
structure DiffersInLayout (first second : Json) : Prop where
  rest : second.withoutLayout = first.withoutLayout
  elsewhere : ∀ q, (∀ field ∈ Drawing.layoutFields, Apart (field.1 ++ [.field field.2]) q) →
    second.at? q = first.at? q

/-- Two drawings show the same data. -/
structure ShowsSameData (first second : Json) : Prop where
  title : second.at? [.field "title", .field "text"] = first.at? [.field "title", .field "text"]
  items : second.drawnSlices? = first.drawnSlices?
  legend : second.legendNames? = first.legendNames?

theorem at?_recolored (textColor : Text) (drawing : Json) {q : Place}
    (h : ∀ place ∈ Drawing.colorPlaces, Apart place q) :
    (drawing.recolored textColor).at? q = drawing.at? q :=
  at?_foldl (fun place hplace j => at?_put_of_apart _ (h place hplace) j) drawing

theorem at?_withoutLayout (drawing : Json) {q : Place}
    (h : ∀ field ∈ Drawing.layoutFields, Apart (field.1 ++ [.field field.2]) q) :
    drawing.withoutLayout.at? q = drawing.at? q :=
  at?_foldl (fun field hfield j => at?_drop_of_apart (h field hfield) j) drawing

/-- A family of drawings, one for each text color and style, shows the same data throughout. -/
structure KeepsData (drawings : Text → Style → Json) : Prop where
  color : ∀ c d style, DiffersInColor c d (drawings c style) (drawings d style)
  layout : ∀ c first second, DiffersInLayout (drawings c first) (drawings c second)
  data : ∀ c d first second, ShowsSameData (drawings c first) (drawings d second)

end Json

/-!
# Drawings with any appearance
-/

/-- A title, legend entries and items, drawn in a text color and in a style. -/
def Drawing.dressed (title : Text) (legend : List Text) (items : List DrawnSlice)
    (textColor : Text) (style : Style) : Drawing :=
  { title
    titleColor := textColor
    legendOrient := style.legendOrient
    legendBottom := style.legendBottom
    legend
    legendColor := textColor
    radius := style.radius
    avoidLabelOverlap := style.avoidLabelOverlap
    borderRadius := if style.borderRadius = 0 then none else some style.borderRadius
    border := style.borderColor.map fun color => { color, width := style.borderWidth }
    showLabels := style.showLabels
    labelColor := textColor
    slices := items
    emphasis := style.emphasisFontSize.map fun fontSize => { fontSize, color := textColor } }

theorem Chart.draw_eq_dressed {chart : Chart} {items : List DrawnSlice}
    (h : chart.slices.mapM (Slice.draw chart.label chart.tooltip) = .ok items) :
    chart.draw = .ok (.dressed chart.title chart.legend items chart.textColor chart.style) := by
  rw [draw, h]
  rfl

namespace Drawing

section

variable (title : Text) (legend : List Text) (items : List DrawnSlice)

theorem toJson_dressed_eq_recolored (c d : Text) (style : Style) :
    (dressed title legend items d style).toJson =
      (dressed title legend items c style).toJson.recolored d := by
  cases hemphasis : style.emphasisFontSize with
  | none =>
      rw [dressed, dressed, hemphasis]
      rfl
  | some size =>
      rw [dressed, dressed, hemphasis]
      rfl

theorem showsColor_dressed (c : Text) (style : Style) :
    (dressed title legend items c style).toJson.ShowsColor c where
  fixed := by
    rw [fixedColorPlaces]
    simp only [List.forall_mem_cons]
    exact ⟨rfl, rfl, rfl, nofun⟩
  emphasis := by
    intro j hj
    cases hsize : style.emphasisFontSize with
    | none =>
        rw [dressed, hsize] at hj
        cases hj
    | some size =>
        rw [dressed, hsize] at hj
        exact (Option.some.inj hj).symm

theorem withoutLayout_dressed (c : Text) (first second : Style) :
    (dressed title legend items c second).toJson.withoutLayout =
      (dressed title legend items c first).toJson.withoutLayout := by
  -- Whether there is a field for the emphasis depends on the style, so it is dropped first.
  have hemphasis : ∀ style : Style, (dressed title legend items c style).toJson.withoutLayout =
      (dressed title legend items c
        { style with emphasisFontSize := none }).toJson.withoutLayout := by
    intro style
    cases hsize : style.emphasisFontSize with
    | none =>
        rw [dressed, hsize]
        rfl
    | some size =>
        rw [dressed, hsize]
        rfl
  rw [hemphasis first, hemphasis second]
  rfl

theorem keepsData_dressed :
    Json.KeepsData fun textColor style => (dressed title legend items textColor style).toJson where
  color c d style :=
    { before := showsColor_dressed title legend items c style
      after := showsColor_dressed title legend items d style
      recolored := toJson_dressed_eq_recolored title legend items c d style
      elsewhere := by
        intro q hq
        rw [toJson_dressed_eq_recolored title legend items c d, Json.at?_recolored d _ hq] }
  layout c first second :=
    { rest := withoutLayout_dressed title legend items c first second
      elsewhere := by
        intro q hq
        rw [← Json.at?_withoutLayout _ hq, withoutLayout_dressed title legend items c first second,
          Json.at?_withoutLayout _ hq] }
  data c d first second :=
    { title := rfl
      items := by rw [Json.drawnSlices?_toJson, Json.drawnSlices?_toJson]; rfl
      legend := by rw [Json.legendNames?_toJson, Json.legendNames?_toJson]; rfl }

end

end Drawing

/-!
# Both charts
-/

namespace Chart

theorem exists_items {chart : Chart}
    (h : ∀ slice ∈ chart.slices, ∃ item, slice.IsDrawnAs chart.label chart.tooltip item) :
    ∃ items, chart.slices.mapM (Slice.draw chart.label chart.tooltip) = .ok items := by
  rcases exists_draw h with ⟨d, _, _, hdrawn⟩
  exact ⟨d.slices, mapM_eq_ok_iff.mpr (hdrawn.imp fun _ _ => Slice.draw_eq_ok_iff.mpr)⟩

/-- Whether the values are a fault, and what is logged, does not depend on the appearance. -/
theorem traffic_cases (ingress egress : Value) (size : SizeFormat) :
    (∃ f, ∀ c style, traffic ingress egress c style size = .error f) ∨
      ∃ records, ∀ c style, traffic ingress egress c style size =
        .ok (ofTraffic (Counter.ofValue ingress) (Counter.ofValue egress) c style size,
          records) := by
  by_cases hsignaling : (ingress.isSignaling || egress.isSignaling) = true
  · apply Or.inl
    refine ⟨.signaling, fun c style => ?_⟩
    rw [traffic_eq, if_pos hsignaling]
  · apply Or.inr
    refine ⟨clampRecords .ingress ingress ++ clampRecords .egress egress, fun c style => ?_⟩
    rw [traffic_eq, if_neg hsignaling]

/--
The traffic of two values is a fault in every appearance, or it is drawn in all of
them from the same data: another text color shows at the places of the text color
and nowhere else, and another style at most in the layout.  The same holds for the
counts in any value, which are always drawn.  What is logged does not depend on
the appearance either.
-/
theorem appearance_keeps_data :
    (∀ (ingress egress : Value) (size : SizeFormat),
      (∃ f, ∀ c style, traffic ingress egress c style size = .error f) ∨
        ∃ records drawings, Json.KeepsData drawings ∧
          ∀ c style, ∃ chart d, traffic ingress egress c style size = .ok (chart, records) ∧
            chart.draw = .ok d ∧ d.toJson = drawings c style) ∧
      ∀ counts : Value, ∃ records drawings, Json.KeepsData drawings ∧
        ∀ c style, ∃ chart d, proxies counts c style = (chart, records) ∧
          chart.draw = .ok d ∧ d.toJson = drawings c style := by
  constructor
  · intro ingress egress size
    rcases traffic_cases ingress egress size with hfault | ⟨records, hcharts⟩
    · exact .inl hfault
    · -- The items do not depend on the appearance, so they can be taken from any drawing.
      have hdrawn := exists_isDrawnAs_ofTraffic (Counter.ofValue_le ingress)
        (Counter.ofValue_le egress) [] Style.plain size
      rcases exists_items fun slice hslice => (hdrawn slice hslice).imp fun _ h => h.1 with
        ⟨items, hitems⟩
      exact .inr ⟨records, _, Drawing.keepsData_dressed _ _ items,
        fun c style => ⟨_, _, hcharts c style, draw_eq_dressed hitems, rfl⟩⟩
  · intro counts
    have hdrawn := exists_isDrawnAs_ofCounts (Counts.ofValue counts) [] Style.plain
    rcases exists_items fun slice hslice => (hdrawn slice hslice).imp fun _ h => h.1 with
      ⟨items, hitems⟩
    exact ⟨_, _, Drawing.keepsData_dressed _ _ items,
      fun c style => ⟨_, _, rfl, draw_eq_dressed hitems, rfl⟩⟩

end Chart
end TunnelBoard
