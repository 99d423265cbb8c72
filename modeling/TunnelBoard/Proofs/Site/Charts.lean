import TunnelBoard.Proofs.Chart.Drawing
import TunnelBoard.Proofs.Chart.Clamping
import TunnelBoard.Proofs.Snapshot.Merging
import TunnelBoard.Site.Resources

/-!
# The charts of a state

The charts of a state whose counts are merged can always be drawn, in any preset
style and in the text color of any theme, and their JSON is read back.
-/

namespace TunnelBoard

/-!
# Presets
-/

theorem Style.isSendable_rich : rich.IsSendable where
  radius := by
    intro r hr
    simp only [rich, List.mem_cons, List.not_mem_nil, or_false] at hr
    rcases hr with h | h <;> subst h <;> exact Text.isWritable_ofString _
  borderRadius := Json.isShort_of_lt (by decide)
  borderColor := by
    intro color hcolor
    cases hcolor
    exact Text.isWritable_ofString _
  borderWidth := Json.isShort_of_lt (by decide)
  emphasisFontSize := by
    intro size hsize
    cases hsize
    exact Json.isShort_of_lt (by decide)
  legendOrient := Text.isWritable_ofString _
  legendBottom := Text.isWritable_ofString _

theorem Style.isSendable_plain : plain.IsSendable where
  radius := by
    intro r hr
    simp only [plain, List.mem_cons, List.not_mem_nil, or_false] at hr
    rcases hr with h | h <;> subst h <;> exact Text.isWritable_ofString _
  borderRadius := Json.isShort_of_lt (by decide)
  borderColor := nofun
  borderWidth := Json.isShort_of_lt (by decide)
  emphasisFontSize := nofun
  legendOrient := Text.isWritable_ofString _
  legendBottom := Text.isWritable_ofString _

theorem Style.isSendable_of_ofName? {name : Text} {style : Style} (h : ofName? name = some style) :
    style.IsSendable := by
  unfold ofName? at h
  dsimp only at h
  split at h
  · cases h
    exact isSendable_rich
  split at h
  · cases h
    exact isSendable_plain
  · cases h

/-!
# Texts of slices
-/

theorem Counter.isShort {n : Nat} (h : n ≤ limit) : Json.IsShort n :=
  Json.isShort_of_lt (Nat.lt_of_le_of_lt h (by decide))

namespace Chart

theorem isSendable_ofTraffic {ingress egress : Nat} (hingress : ingress ≤ Counter.limit)
    (hegress : egress ≤ Counter.limit) {textColor : Text} (hcolor : textColor.IsWritable)
    {style : Style} (hstyle : style.IsSendable) :
    (ofTraffic ingress egress textColor style .humanized).IsSendable := by
  have hslice : ∀ (direction : Direction) (n : Nat), n ≤ Counter.limit → n ≤ ingress + egress →
      Slice.IsSendable (.sizeLabel .humanized) (.sizeTooltip (ingress + egress) .humanized)
        ⟨direction.name, n, direction.color⟩ := by
    intro direction n hn htotal
    have hname : direction.name.IsWritable := by
      cases direction <;> exact Text.isWritable_ofString _
    have hdirection : direction.color.IsWritable := by
      cases direction <;> exact Text.isWritable_ofString _
    rcases Size.ofNat_eq_ok .plain hn with ⟨amount, hofNat, hwritable⟩
    have hamount : SizeFormat.humanized.apply n = .ok amount := by
      rw [SizeFormat.apply_humanized, hofNat]
    have hpart : (n : Int) ≤ ingress + egress := by omega
    have hpercent : ∃ percent, Percent.share n (ingress + egress) = .ok percent :=
      ⟨_, Percent.share_eq_ok (Int.natCast_nonneg n) hpart⟩
    rcases hpercent with ⟨percent, hpercent⟩
    refine ⟨hname, Counter.isShort hn, hdirection, ?_, ?_⟩
    · exact ⟨_, SliceFormat.apply_sizeLabel hamount, by simp [hname, hwritable]⟩
    · exact ⟨_, SliceFormat.apply_sizeTooltip hpercent hamount, by simp [hname, hwritable]⟩
  refine ⟨Text.isWritable_ofString _, hcolor, ?_, hstyle, ?_⟩
  · intro name hname
    simp only [ofTraffic, ofSlices, List.map_cons, List.map_nil, List.mem_cons, List.not_mem_nil,
      or_false] at hname
    rcases hname with h | h <;> subst h <;> exact Text.isWritable_ofString _
  · intro slice hmem
    rcases (mem_slices_ofTraffic_iff _ _ _ _ _ _).mp hmem with h | h <;> subst h
    · exact hslice .ingress ingress hingress (Nat.le_add_right _ _)
    · exact hslice .egress egress hegress (Nat.le_add_left _ _)

theorem isSendable_ofCounts {counts : Counts} (h : ∀ name, counts.get name ≤ Counter.limit)
    {textColor : Text} (hcolor : textColor.IsWritable) {style : Style} (hstyle : style.IsSendable) :
    (ofCounts counts textColor style).IsSendable := by
  have hnonneg : ∀ slice ∈ (ofCounts counts textColor style).slices, 0 ≤ slice.value :=
    fun slice hmem => Int.le_of_lt (pos_of_mem_ofCounts hmem)
  have hname : ∀ p : Protocol, p.name.IsWritable := by
    intro p
    cases p <;> exact Text.isWritable_ofString _
  refine ⟨Text.isWritable_ofString _, hcolor, ?_, hstyle, ?_⟩
  · intro name hmem
    rcases List.mem_map.mp hmem with ⟨slice, hslices, hslicename⟩
    rcases (mem_slices_iff counts textColor style slice).mp hslices with ⟨p, _, hp⟩
    rw [← hslicename, hp]
    exact hname p
  · intro slice hmem
    have hpercent : ∃ percent, Percent.share slice.value _ = .ok percent :=
      ⟨_, Slice.share_sum_eq_ok hnonneg hmem⟩
    rcases hpercent with ⟨percent, hpercent⟩
    rcases (mem_slices_iff counts textColor style slice).mp hmem with ⟨p, _, hp⟩
    have hprotocolColor : p.color.IsWritable := by
      cases p <;> exact Text.isWritable_ofString _
    subst hp
    refine ⟨hname p, Counter.isShort (h p.name), hprotocolColor, ?_, ?_⟩
    · exact ⟨_, rfl, by simp [hname p]⟩
    · exact ⟨_, SliceFormat.apply_countTooltip hpercent, by simp [hname p]⟩

end Chart

namespace Site

theorem result_chartsJson {s : Snapshot} {textColor : Text} {style : Style}
    {traffic proxies : Drawing}
    (htraffic : (Chart.ofTraffic (Counter.ofInt s.trafficIn) (Counter.ofInt s.trafficOut) textColor
      style .humanized).draw = .ok traffic)
    (hproxies : (Chart.ofCounts (Counts.ofValue s.proxies.toValue) textColor style).draw =
      .ok proxies) :
    (chartsJson s textColor style).result =
      .ok (.object [("traffic", traffic.toJson), ("proxyTypes", proxies.toJson)]) := by
  rcases Chart.traffic_int s.trafficIn s.trafficOut textColor style .humanized with
    ⟨records, hbuild⟩
  rw [chartsJson, hbuild, Run.result_bind_ok rfl]
  dsimp only
  rw [Run.result_logAll_bind, Run.result_bind_ok htraffic]
  dsimp only [Chart.proxies]
  rw [Run.result_logAll_bind, Run.result_bind_ok hproxies]
  rfl

/-- The charts of a state can be drawn, and their JSON is read back. -/
theorem chartsJson_eq_ok {s : Snapshot} (hs : s.proxies.IsMerged) {textColor : Text}
    (hcolor : textColor.IsWritable) {style : Style} (hstyle : style.IsSendable) :
    ∃ charts, (chartsJson s textColor style).result = .ok charts ∧
      ∀ depth, Json.Readable (depth + 7) charts := by
  have hcounts : ∀ name, (Counts.ofValue s.proxies.toValue).get name ≤ Counter.limit := by
    intro name
    rw [Counts.ofValue_toValue hs, Counts.get_inRange]
    exact Counter.ofInt_le _
  rcases Chart.draw_eq_ok (Chart.isSendable_ofTraffic (Counter.ofInt_le s.trafficIn)
    (Counter.ofInt_le s.trafficOut) hcolor hstyle) with ⟨traffic, hdrawTraffic, hsendTraffic⟩
  rcases Chart.draw_eq_ok (Chart.isSendable_ofCounts hcounts hcolor hstyle) with
    ⟨proxies, hdrawProxies, hsendProxies⟩
  refine ⟨_, result_chartsJson hdrawTraffic hdrawProxies, ?_⟩
  intro depth
  apply Json.readable_object ["traffic", "proxyTypes"] rfl (by decide)
  simp only [List.forall_mem_cons]
  exact ⟨Drawing.readable_toJson hsendTraffic, Drawing.readable_toJson hsendProxies, nofun⟩

end Site
end TunnelBoard
