import TunnelBoard.Proofs.Chart.Drawing
import TunnelBoard.Proofs.Chart.Clamping

/-!
# Drawings that are consistent

The JSON of a drawing is all that a browser gets of a chart.  It says everything
more than once: names stand in the legend and in the items, and the texts of an
item repeat its name, its value and its share in the sum of all values.  These
never contradict each other: whatever was drawn, the texts can be made again from
the names and the values in the JSON alone.
-/

namespace TunnelBoard

/-!
# Reading drawings

The names of the legend and the items of the only series are read off the JSON.
-/

namespace Json

def text? : Json → Option Text
  | .text t => some t
  | _ => none

def int? : Json → Option Int
  | .int n => some n
  | _ => none

/-- The items of an array, each of which has to be read. -/
def items? {α : Type} (read : Json → Option α) : Json → Option (List α)
  | .array items => items.mapM read
  | _ => none

def drawnSlice? (j : Json) : Option DrawnSlice := do
  let name ← (← j.field? "name").text?
  let value ← (← j.field? "value").int?
  let color ← (← (← j.field? "itemStyle").field? "color").text?
  let label ← (← j.field? "label").text?
  let tooltip ← (← j.field? "tooltip").text?
  pure { name, value, color, label, tooltip }

def legendNames? (drawing : Json) : Option (List Text) := do
  let legend ← drawing.field? "legend"
  (← legend.field? "data").items? text?

/-- The items of the first series of a drawing. -/
def drawnSlices? (drawing : Json) : Option (List DrawnSlice) := do
  let series ← (← drawing.field? "series").item? 0
  (← series.field? "data").items? drawnSlice?

theorem items?_array_map {α : Type} {read : Json → Option α} {write : α → Json}
    (h : ∀ a, read (write a) = some a) (items : List α) :
    items? read (.array (items.map write)) = some items := by
  show (items.map write).mapM read = some items
  induction items with
  | nil => rfl
  | cons a rest ih =>
      rw [List.map_cons, List.mapM_cons, h, ih]
      rfl

theorem drawnSlice?_toJson (item : DrawnSlice) : drawnSlice? item.toJson = some item := rfl

theorem legendNames?_toJson (d : Drawing) : legendNames? d.toJson = some d.legend :=
  @items?_array_map Text text? .text (fun _ => rfl) d.legend

theorem drawnSlices?_toJson (d : Drawing) : drawnSlices? d.toJson = some d.slices :=
  items?_array_map drawnSlice?_toJson d.slices

end Json

/-!
# Consistency
-/

def DrawnSlice.sum (items : List DrawnSlice) : Int :=
  items.foldr (fun item n => item.value + n) 0

/-- The fixed colors of all names that slices have. -/
def fixedColors : List (Text × Text) :=
  [ ("ingress traffic", "#91cc75"), ("egress traffic", "#5470c6")
  , ("tcp", "#5470c6"), ("udp", "#91cc75"), ("http", "#fac858"), ("https", "#ee6666")
  , ("stcp", "#73c0de"), ("sudp", "#3ba272"), ("xtcp", "#fc8452") ]

/-- The texts of an item tell its value and its share in a total. -/
structure DrawnSlice.TellsCount (total : Int) (item : DrawnSlice) : Prop where
  label : item.label = item.name ++ ": " ++ Text.ofInt item.value
  tooltip : ∃ percent, Percent.share item.value total = .ok percent ∧
    item.tooltip =
      item.name ++ ": " ++ Text.ofInt item.value ++ " (" ++ Text.ofInt percent ++ "%)"

/-- The texts of an item tell its value as a size and its share in a total. -/
structure DrawnSlice.TellsSize (size : SizeFormat) (total : Int) (item : DrawnSlice) : Prop where
  label : ∃ amount, size.apply item.value = .ok amount ∧
    item.label = item.name ++ "\n" ++ amount
  tooltip : ∃ amount percent, size.apply item.value = .ok amount ∧
    Percent.share item.value total = .ok percent ∧
      item.tooltip = item.name ++ ": " ++ amount ++ " — " ++ Text.ofInt percent ++ "%"

/-- The JSON of a drawing with certain items does not contradict itself. -/
structure Json.IsConsistent (tells : Int → DrawnSlice → Prop) (drawing : Json)
    (items : List DrawnSlice) : Prop where
  data : drawing.drawnSlices? = some items
  legend : drawing.legendNames? = some (items.map DrawnSlice.name)
  nodup : (items.map DrawnSlice.name).Nodup
  nonneg : ∀ item ∈ items, 0 ≤ item.value
  colored : ∀ item ∈ items, fixedColors.lookup item.name = some item.color
  texts : ∀ item ∈ items, tells (DrawnSlice.sum items) item

/-!
# Drawing slices

A slice keeps its name, its value and its color when it is drawn.
-/

/-- A slice is drawn as an item of the drawing. -/
structure Slice.IsDrawnAs (label tooltip : SliceFormat) (slice : Slice) (item : DrawnSlice) :
    Prop where
  name : item.name = slice.name
  value : item.value = slice.value
  color : item.color = slice.color
  label : label.apply slice = .ok item.label
  tooltip : tooltip.apply slice = .ok item.tooltip

theorem Slice.draw_eq_ok_iff {label tooltip : SliceFormat} {slice : Slice} {item : DrawnSlice} :
    slice.draw label tooltip = .ok item ↔ slice.IsDrawnAs label tooltip item := by
  unfold draw
  constructor
  · intro h
    cases hlabel : label.apply slice with
    | error f =>
        rw [hlabel] at h
        cases h
    | ok labelText =>
        cases htooltip : tooltip.apply slice with
        | error f =>
            rw [hlabel, htooltip] at h
            cases h
        | ok tooltipText =>
            rw [hlabel, htooltip] at h
            cases h
            exact ⟨rfl, rfl, rfl, hlabel, htooltip⟩
  · intro h
    cases item with
    | mk name value color labelText tooltipText =>
        rcases h with ⟨hname, hvalue, hcolor, hlabel, htooltip⟩
        dsimp only at hname hvalue hcolor hlabel htooltip
        rw [hlabel, htooltip, hname, hvalue, hcolor]
        rfl

section

variable {label tooltip : SliceFormat} {slices : List Slice} {items : List DrawnSlice}

theorem map_name_of_isDrawnAs (h : List.Forall₂ (Slice.IsDrawnAs label tooltip) slices items) :
    items.map DrawnSlice.name = slices.map Slice.name := by
  induction h with
  | nil => rfl
  | cons hfirst _ ih => rw [List.map_cons, List.map_cons, hfirst.name, ih]

theorem sum_of_isDrawnAs (h : List.Forall₂ (Slice.IsDrawnAs label tooltip) slices items) :
    DrawnSlice.sum items = Slice.sum slices := by
  induction h with
  | nil => rfl
  | cons hfirst _ ih =>
      rw [DrawnSlice.sum, List.foldr_cons, ← DrawnSlice.sum, hfirst.value, ih, Slice.sum]

theorem exists_slice_of_isDrawnAs
    (h : List.Forall₂ (Slice.IsDrawnAs label tooltip) slices items) {item : DrawnSlice}
    (hmem : item ∈ items) : ∃ slice ∈ slices, slice.IsDrawnAs label tooltip item := by
  induction h with
  | nil => cases hmem
  | cons hfirst _ ih =>
      rcases List.mem_cons.mp hmem with hmem | hmem
      · rw [hmem]
        exact ⟨_, List.mem_cons_self, hfirst⟩
      · rcases ih hmem with ⟨slice, hslice, hdrawn⟩
        exact ⟨slice, List.mem_cons_of_mem _ hslice, hdrawn⟩

end

namespace Chart

theorem exists_draw {chart : Chart}
    (h : ∀ slice ∈ chart.slices, ∃ item, slice.IsDrawnAs chart.label chart.tooltip item) :
    ∃ d, chart.draw = .ok d ∧ d.legend = chart.legend ∧
      List.Forall₂ (Slice.IsDrawnAs chart.label chart.tooltip) chart.slices d.slices := by
  have hdraw : ∀ slice ∈ chart.slices,
      ∃ item, slice.draw chart.label chart.tooltip = .ok item ∧ True := by
    intro slice hslice
    rcases h slice hslice with ⟨item, hitem⟩
    exact ⟨item, Slice.draw_eq_ok_iff.mpr hitem, trivial⟩
  rcases mapM_eq_ok hdraw with ⟨items, hitems, _⟩
  refine ⟨_, by rw [draw, hitems]; rfl, rfl, ?_⟩
  exact (mapM_eq_ok_iff.mp hitems).imp fun _ _ => Slice.draw_eq_ok_iff.mp

/-- A chart is drawn consistently if each of its slices is drawn as an item that tells. -/
theorem exists_consistent_draw {chart : Chart} {tells : Int → DrawnSlice → Prop}
    (hlegend : chart.legend = chart.slices.map Slice.name)
    (hnodup : (chart.slices.map Slice.name).Nodup)
    (hslices : ∀ slice ∈ chart.slices, 0 ≤ slice.value ∧
      fixedColors.lookup slice.name = some slice.color ∧
      ∃ item, slice.IsDrawnAs chart.label chart.tooltip item ∧
        tells (Slice.sum chart.slices) item) :
    ∃ d items, chart.draw = .ok d ∧ d.toJson.IsConsistent tells items := by
  have hitems : ∀ slice ∈ chart.slices, ∃ item,
      slice.IsDrawnAs chart.label chart.tooltip item := by
    intro slice hslice
    rcases (hslices slice hslice).2.2 with ⟨item, hitem, _⟩
    exact ⟨item, hitem⟩
  rcases exists_draw hitems with ⟨d, hdraw, hdlegend, hdrawn⟩
  have hnames := map_name_of_isDrawnAs hdrawn
  refine ⟨d, d.slices, hdraw, ?_⟩
  constructor
  case data => exact Json.drawnSlices?_toJson d
  case legend => rw [Json.legendNames?_toJson, hdlegend, hlegend, hnames]
  case nodup =>
    rw [hnames]
    exact hnodup
  case nonneg =>
    intro item hitem
    rcases exists_slice_of_isDrawnAs hdrawn hitem with ⟨slice, hslice, h⟩
    rw [h.value]
    exact (hslices slice hslice).1
  case colored =>
    intro item hitem
    rcases exists_slice_of_isDrawnAs hdrawn hitem with ⟨slice, hslice, h⟩
    rw [h.name, h.color]
    exact (hslices slice hslice).2.1
  case texts =>
    intro item hitem
    rcases exists_slice_of_isDrawnAs hdrawn hitem with ⟨slice, hslice, h⟩
    rcases (hslices slice hslice).2.2 with ⟨other, hother, htells⟩
    have hsame : (Except.ok item : Except Fault DrawnSlice) = .ok other := by
      rw [← Slice.draw_eq_ok_iff.mpr h, Slice.draw_eq_ok_iff.mpr hother]
    rw [sum_of_isDrawnAs hdrawn, Except.ok.inj hsame]
    exact htells

/-!
# Both charts
-/

theorem exists_isDrawnAs_ofTraffic {ingress egress : Nat} (hingress : ingress ≤ Counter.limit)
    (hegress : egress ≤ Counter.limit) (textColor : Text) (style : Style) (size : SizeFormat) :
    ∀ slice ∈ (ofTraffic ingress egress textColor style size).slices,
      ∃ item, slice.IsDrawnAs (.sizeLabel size) (.sizeTooltip (ingress + egress) size) item ∧
        item.TellsSize size (ingress + egress) := by
  intro slice hslice
  have hnonneg : ∀ slice ∈ (ofTraffic ingress egress textColor style size).slices,
      0 ≤ slice.value := fun slice => nonneg_of_mem_ofTraffic
  have hpercent := Slice.share_sum_eq_ok hnonneg hslice
  have hamount : ∃ amount, size.apply slice.value = .ok amount := by
    rcases (mem_slices_ofTraffic_iff _ _ _ _ _ _).mp hslice with h | h
    · rcases size.apply_eq_ok hingress with ⟨amount, hamount⟩
      exact ⟨amount, h ▸ hamount⟩
    · rcases size.apply_eq_ok hegress with ⟨amount, hamount⟩
      exact ⟨amount, h ▸ hamount⟩
  rcases hamount with ⟨amount, hamount⟩
  rw [sum_slices_ofTraffic] at hpercent
  exact ⟨⟨slice.name, slice.value, slice.color, _, _⟩,
    ⟨rfl, rfl, rfl, SliceFormat.apply_sizeLabel hamount,
      SliceFormat.apply_sizeTooltip hpercent hamount⟩,
    ⟨⟨amount, hamount, rfl⟩, ⟨amount, _, hamount, hpercent, rfl⟩⟩⟩

theorem exists_consistent_draw_ofTraffic {ingress egress : Nat}
    (hingress : ingress ≤ Counter.limit) (hegress : egress ≤ Counter.limit) (textColor : Text)
    (style : Style) (size : SizeFormat) :
    ∃ d items, (ofTraffic ingress egress textColor style size).draw = .ok d ∧
      d.toJson.IsConsistent (DrawnSlice.TellsSize size) items := by
  apply exists_consistent_draw rfl
  · show [Direction.ingress.name, Direction.egress.name].Nodup
    decide
  · intro slice hslice
    refine ⟨nonneg_of_mem_ofTraffic hslice, ?_, ?_⟩
    · rcases (mem_slices_ofTraffic_iff _ _ _ _ _ _).mp hslice with h | h <;> rw [h] <;> rfl
    · rw [sum_slices_ofTraffic]
      exact exists_isDrawnAs_ofTraffic hingress hegress textColor style size slice hslice

/-- The labels of the two items of a drawing of traffic show its sizes. -/
theorem exists_labeled_draw_ofTraffic {ingress egress : Nat} (hingress : ingress ≤ Counter.limit)
    (hegress : egress ≤ Counter.limit) (textColor : Text) (style : Style) {received sent : Text}
    (hreceived : Size.ofNat .plain ingress = .ok received)
    (hsent : Size.ofNat .plain egress = .ok sent) :
    ∃ d first second, (ofTraffic ingress egress textColor style .humanized).draw = .ok d ∧
      d.toJson.drawnSlices? = some [first, second] ∧
      first.label = "ingress traffic\n" ++ received ∧
      second.label = "egress traffic\n" ++ sent := by
  have hdrawable : ∀ slice ∈ (ofTraffic ingress egress textColor style .humanized).slices,
      ∃ item, slice.IsDrawnAs (.sizeLabel .humanized) (.sizeTooltip (ingress + egress) .humanized)
        item := by
    intro slice hslice
    rcases exists_isDrawnAs_ofTraffic hingress hegress textColor style .humanized slice hslice with
      ⟨item, hitem, _⟩
    exact ⟨item, hitem⟩
  rcases exists_draw hdrawable with ⟨d, hdraw, _, hdrawn⟩
  have hlabel : ∀ (direction : Direction) (n : Nat) (amount : Text) (item : DrawnSlice),
      Size.ofNat .plain n = .ok amount →
        (SliceFormat.sizeLabel .humanized).apply ⟨direction.name, n, direction.color⟩ =
          .ok item.label → item.label = direction.name ++ "\n" ++ amount := by
    intro direction n amount item hamount hitem
    let slice : Slice := ⟨direction.name, n, direction.color⟩
    have hsize : SizeFormat.humanized.apply slice.value = .ok amount := by
      rw [SizeFormat.apply_humanized, hamount]
    rw [SliceFormat.apply_sizeLabel hsize] at hitem
    exact (Except.ok.inj hitem).symm
  have hslices := Json.drawnSlices?_toJson d
  generalize d.slices = items at hdrawn hslices
  cases hdrawn with
  | cons hfirst hrest =>
      cases hrest with
      | cons hsecond hnil =>
          cases hnil
          exact ⟨d, _, _, hdraw, hslices, hlabel .ingress _ _ _ hreceived hfirst.label,
            hlabel .egress _ _ _ hsent hsecond.label⟩

theorem lookup_fixedColors (p : Protocol) : fixedColors.lookup p.name = some p.color := by
  cases p <;> rfl

theorem exists_isDrawnAs_ofCounts (counts : Counts) (textColor : Text) (style : Style) :
    let slices := (ofCounts counts textColor style).slices
    ∀ slice ∈ slices, ∃ item,
      slice.IsDrawnAs .countLabel (.countTooltip (Slice.sum slices)) item ∧
        item.TellsCount (Slice.sum slices) := by
  intro slices slice hslice
  have hnonneg : ∀ slice ∈ slices, 0 ≤ slice.value :=
    fun slice hmem => Int.le_of_lt (pos_of_mem_ofCounts hmem)
  have hpercent := Slice.share_sum_eq_ok hnonneg hslice
  exact ⟨⟨slice.name, slice.value, slice.color, _, _⟩,
    ⟨rfl, rfl, rfl, rfl, SliceFormat.apply_countTooltip hpercent⟩, ⟨rfl, ⟨_, hpercent, rfl⟩⟩⟩

theorem exists_consistent_draw_ofCounts (counts : Counts) (textColor : Text) (style : Style) :
    ∃ d items, (ofCounts counts textColor style).draw = .ok d ∧
      d.toJson.IsConsistent DrawnSlice.TellsCount items := by
  apply exists_consistent_draw rfl (nodup_names_ofCounts counts textColor style)
  intro slice hslice
  refine ⟨Int.le_of_lt (pos_of_mem_ofCounts hslice), ?_,
    exists_isDrawnAs_ofCounts counts textColor style slice hslice⟩
  rcases (mem_slices_iff counts textColor style slice).mp hslice with ⟨p, _, heq⟩
  rw [heq]
  exact lookup_fixedColors p

/--
The JSON of a chart that a builder returns never contradicts itself: its legend
has the different names of its items in their order, their values are not
negative, their colors are the fixed colors of their names, and their texts tell
their values and their shares in the sum of all values.
-/
theorem drawing_isConsistent (textColor : Text) (style : Style) :
    (∀ (ingress egress : Value) (size : SizeFormat) (chart : Chart) (records : List Log.Record),
      traffic ingress egress textColor style size = .ok (chart, records) →
        ∃ d items, chart.draw = .ok d ∧
          d.toJson.IsConsistent (DrawnSlice.TellsSize size) items) ∧
      ∀ counts : Value, ∃ d items, (proxies counts textColor style).1.draw = .ok d ∧
        d.toJson.IsConsistent DrawnSlice.TellsCount items := by
  constructor
  · intro ingress egress size chart records htraffic
    rw [fst_of_traffic_eq_ok htraffic]
    exact exists_consistent_draw_ofTraffic (Counter.ofValue_le ingress) (Counter.ofValue_le egress)
      textColor style size
  · intro counts
    exact exists_consistent_draw_ofCounts (Counts.ofValue counts) textColor style

/-- A numeral and a number that is out of range: the first is read, the second is zero. -/
theorem drawing_of_numeral :
    ∃ chart records d items,
      traffic (.text " 1536 ") (.int (-5)) "#333" Style.rich .humanized = .ok (chart, records) ∧
        chart.draw = .ok d ∧ d.toJson.IsConsistent (DrawnSlice.TellsSize .humanized) items := by
  rcases (drawing_isConsistent "#333" Style.rich).1 (.text " 1536 ") (.int (-5)) .humanized _ _ rfl
    with ⟨d, items, hdraw, hconsistent⟩
  exact ⟨_, _, d, items, rfl, hdraw, hconsistent⟩

end Chart
end TunnelBoard
