import TunnelBoard.Chart.Traffic
import TunnelBoard.Proofs.Chart.ReportedCounts
import TunnelBoard.Proofs.Chart.Shares
import TunnelBoard.Proofs.Chart.Sizes

/-!
# Slices of charts

The slices of a chart are parts of a whole: no value is negative, and the values
add up to the total that the tooltips are made with.
-/

namespace TunnelBoard

/-!
# Texts

The texts of a slice are its name, its value and its share, put together.
-/

theorem SizeFormat.apply_humanized (n : Nat) : humanized.apply n = Size.ofNat .plain n := by
  rw [apply, Size.ofInt, if_neg (Int.not_lt.mpr (Int.natCast_nonneg n)), Int.natAbs_natCast]

theorem SizeFormat.apply_eq_ok (size : SizeFormat) {n : Nat} (h : n ≤ Counter.limit) :
    ∃ t, size.apply n = .ok t := by
  cases size with
  | humanized =>
      rcases Size.ofNat_eq_ok .plain h with ⟨t, ht, _⟩
      rw [apply_humanized]
      exact ⟨t, ht⟩
  | custom write => exact ⟨write n, rfl⟩

namespace SliceFormat

theorem apply_sizeLabel {size : SizeFormat} {slice : Slice} {amount : Text}
    (hamount : size.apply slice.value = .ok amount) :
    (sizeLabel size).apply slice = .ok (slice.name ++ "\n" ++ amount) := by
  rw [apply, hamount]
  rfl

theorem apply_sizeTooltip {total percent : Int} {size : SizeFormat} {slice : Slice} {amount : Text}
    (hpercent : Percent.share slice.value total = .ok percent)
    (hamount : size.apply slice.value = .ok amount) :
    (sizeTooltip total size).apply slice =
      .ok (slice.name ++ ": " ++ amount ++ " — " ++ Text.ofInt percent ++ "%") := by
  rw [apply, hpercent, hamount]
  rfl

theorem apply_countTooltip {total percent : Int} {slice : Slice}
    (hpercent : Percent.share slice.value total = .ok percent) :
    (countTooltip total).apply slice =
      .ok (slice.name ++ ": " ++ Text.ofInt slice.value ++ " (" ++ Text.ofInt percent ++ "%)") := by
  rw [apply, hpercent]
  rfl

end SliceFormat

/-!
# Sums
-/

namespace Slice

theorem sum_nonneg {slices : List Slice} (h : ∀ slice ∈ slices, 0 ≤ slice.value) :
    0 ≤ sum slices := by
  induction slices with
  | nil => exact Int.le_refl 0
  | cons first rest ih =>
      rw [List.forall_mem_cons] at h
      exact Int.add_nonneg h.1 (ih h.2)

theorem value_le_sum {slices : List Slice} (h : ∀ slice ∈ slices, 0 ≤ slice.value) {slice : Slice}
    (hmem : slice ∈ slices) : slice.value ≤ sum slices := by
  induction slices with
  | nil => cases hmem
  | cons first rest ih =>
      rw [List.forall_mem_cons] at h
      have hrest := sum_nonneg h.2
      rw [sum]
      rcases List.mem_cons.mp hmem with hmem | hmem
      · rw [hmem]
        omega
      · have := ih h.2 hmem
        omega

theorem share_sum_eq_ok {slices : List Slice} (h : ∀ slice ∈ slices, 0 ≤ slice.value)
    {slice : Slice} (hmem : slice ∈ slices) :
    Percent.share slice.value (sum slices) =
      .ok (Percent.round slice.value.toNat (max 1 (sum slices).toNat) : Nat) :=
  Percent.share_eq_ok (h slice hmem) (value_le_sum h hmem)

end Slice

namespace Chart

/-!
# The traffic chart

The two slices are there for all counters.
-/

theorem mem_slices_ofTraffic_iff (ingress egress : Nat) (textColor : Text) (style : Style)
    (size : SizeFormat) (slice : Slice) :
    slice ∈ (ofTraffic ingress egress textColor style size).slices ↔
      slice = ⟨Direction.ingress.name, ingress, Direction.ingress.color⟩ ∨
        slice = ⟨Direction.egress.name, egress, Direction.egress.color⟩ := by
  simp only [ofTraffic, ofSlices, List.mem_cons, List.not_mem_nil, or_false]

theorem sum_slices_ofTraffic (ingress egress : Nat) (textColor : Text) (style : Style)
    (size : SizeFormat) :
    Slice.sum (ofTraffic ingress egress textColor style size).slices = ingress + egress := by
  show (ingress : Int) + (egress + 0) = ingress + egress
  rw [Int.add_zero]

theorem nonneg_of_mem_ofTraffic {ingress egress : Nat} {textColor : Text} {style : Style}
    {size : SizeFormat} {slice : Slice}
    (h : slice ∈ (ofTraffic ingress egress textColor style size).slices) : 0 ≤ slice.value := by
  rcases (mem_slices_ofTraffic_iff _ _ _ _ _ _).mp h with h | h <;> rw [h] <;>
    exact Int.natCast_nonneg _

/-!
# The chart of proxies

Only protocols have slices, each at most one, and the tooltips are made with the
sum of the slices.
-/

theorem pos_of_mem_ofCounts {counts : Counts} {textColor : Text} {style : Style} {slice : Slice}
    (h : slice ∈ (ofCounts counts textColor style).slices) : 0 < slice.value := by
  rcases (mem_slices_iff counts textColor style slice).mp h with ⟨p, hpos, heq⟩
  rw [heq]
  exact Int.natCast_pos.mpr hpos

theorem length_slices_ofCounts_le (counts : Counts) (textColor : Text) (style : Style) :
    (ofCounts counts textColor style).slices.length ≤ 7 :=
  List.length_filterMap_le _ Protocol.all

/-- The slices keep the order of the protocols. -/
theorem names_sublist (counts : Counts) (protocols : List Protocol) :
    ((protocols.filterMap (protocolSlice? counts)).map Slice.name).Sublist
      (protocols.map Protocol.name) := by
  induction protocols with
  | nil => exact List.Sublist.slnil
  | cons p rest ih =>
      cases hslice : protocolSlice? counts p with
      | none =>
          rw [List.filterMap_cons_none hslice]
          exact List.Sublist.cons _ ih
      | some slice =>
          have hname : slice.name = p.name := by
            rw [((protocolSlice?_eq_some_iff counts p slice).mp hslice).2]
          rw [List.filterMap_cons_some hslice, List.map_cons, List.map_cons, hname]
          exact List.Sublist.cons_cons _ ih

theorem nodup_names_ofCounts (counts : Counts) (textColor : Text) (style : Style) :
    ((ofCounts counts textColor style).slices.map Slice.name).Nodup :=
  (names_sublist counts Protocol.all).nodup Protocol.nodup_names

end Chart
end TunnelBoard
