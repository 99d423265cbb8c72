import TunnelBoard.Proofs.Chart.Drawing
import TunnelBoard.Proofs.Chart.Clamping
import TunnelBoard.Proofs.Text.Digits
import TunnelBoard.Proofs.Text.Splitting

/-!
# Percentages that add up

The percentages that the tooltips of a chart show are rounded one by one, so they
need not add up to one hundred.  They miss it by at most half a percent for each
slice.  The two percentages of traffic add up to one hundred or, if both shares
are half-way between two integers, to one hundred and one.
-/

namespace TunnelBoard

/-!
# Reading percentages

A percentage is read off a text again: it is the numeral in front of the last
percent sign.
-/

namespace Text

/-- The number in front of the last percent sign of a text. -/
def percentage? (t : Text) : Option Nat :=
  (t.cutLast? '%').bind fun parts =>
    let digits := (parts.1.reverse.takeWhile CodePoint.isAsciiDigit).reverse
    if digits.isEmpty then none else some (digitsValue (digits.filterMap CodePoint.asciiDigit?))

theorem percentage?_numeral {c : CodePoint} (hc : c.isAsciiDigit = false) {back : Text}
    (hback : ('%' : CodePoint) ∉ back) (front : Text) (n : Nat) :
    percentage? (front ++ c :: (ofNat n ++ ('%' : CodePoint) :: back)) = some n := by
  have hsplit : front ++ c :: (ofNat n ++ ('%' : CodePoint) :: back) =
      (front ++ c :: ofNat n) ++ ('%' : CodePoint) :: back := by
    rw [List.append_assoc]
    rfl
  have hreverse : (front ++ c :: ofNat n).reverse = (ofNat n).reverse ++ c :: front.reverse := by
    rw [List.reverse_append, List.reverse_cons, List.append_assoc]
    rfl
  have hdigits : ∀ d ∈ (ofNat n).reverse, d.isAsciiDigit = true := by
    intro d hd
    exact isAsciiDigit_of_mem_ofNat (List.mem_reverse.mp hd)
  have htake : ((front ++ c :: ofNat n).reverse.takeWhile CodePoint.isAsciiDigit).reverse =
      ofNat n := by
    rw [hreverse, List.takeWhile_append_of_pos hdigits,
      List.takeWhile_cons_of_neg (by simp [hc]), List.append_nil, List.reverse_reverse]
  have hne : (ofNat n).isEmpty = false := by
    rw [List.isEmpty_eq_false_iff, ofNat]
    intro hnil
    exact Nat.toDigits_ne_nil (List.map_eq_nil_iff.mp hnil)
  rw [percentage?, hsplit, cutLast?_append hback, Option.bind_some]
  dsimp only
  rw [htake, hne, filterMap_asciiDigit?_ofNat, digitsValue_digitsOf]
  rfl

theorem percentage?_sizeTooltip (name amount : Text) (n : Nat) :
    percentage? (name ++ ": " ++ amount ++ " — " ++ ofInt n ++ "%") = some n := by
  have hshape : (name ++ ": " ++ amount ++ " — " ++ ofInt n ++ "%" : Text) =
      (name ++ ": " ++ amount ++ " —") ++
        (' ' : CodePoint) :: (ofNat n ++ ('%' : CodePoint) :: []) := by
    have hdash : (" — " : Text) = " —" ++ [(' ' : CodePoint)] := rfl
    rw [hdash]
    simp only [List.append_assoc]
    rfl
  rw [hshape]
  exact percentage?_numeral rfl List.not_mem_nil _ n

theorem percentage?_countTooltip (name value : Text) (n : Nat) :
    percentage? (name ++ ": " ++ value ++ " (" ++ ofInt n ++ "%)") = some n := by
  have hshape : (name ++ ": " ++ value ++ " (" ++ ofInt n ++ "%)" : Text) =
      (name ++ ": " ++ value ++ " ") ++
        ('(' : CodePoint) :: (ofNat n ++ ('%' : CodePoint) :: [(')' : CodePoint)]) := by
    have hopening : (" (" : Text) = " " ++ [('(' : CodePoint)] := rfl
    rw [hopening]
    simp only [List.append_assoc]
    rfl
  rw [hshape]
  exact percentage?_numeral rfl (by decide) _ n

end Text

namespace Chart

/-- The tooltips of a chart show these percentages, in the order of the slices. -/
def ShowsPercentages (chart : Chart) (percents : List Nat) : Prop :=
  ∃ tooltips, chart.tooltips = .ok tooltips ∧ tooltips.mapM Text.percentage? = some percents

theorem showsPercentages_map {chart : Chart} {share : Slice → Nat}
    (h : ∀ slice ∈ chart.slices, ∃ t, chart.tooltip.apply slice = .ok t ∧
      t.percentage? = some (share slice)) :
    chart.ShowsPercentages (chart.slices.map share) := by
  unfold ShowsPercentages tooltips
  generalize chart.slices = slices at h ⊢
  induction slices with
  | nil => exact ⟨[], rfl, rfl⟩
  | cons slice rest ih =>
      rw [List.forall_mem_cons] at h
      rcases h with ⟨⟨t, htooltip, hpercentage⟩, hrest⟩
      rcases ih hrest with ⟨tooltips, htooltips, hpercentages⟩
      refine ⟨t :: tooltips, ?_, ?_⟩
      · rw [List.mapM_cons, htooltip, htooltips]
        rfl
      · rw [List.mapM_cons, hpercentage, hpercentages]
        rfl

end Chart

/-!
# Sums of percentages
-/

namespace Percent

/-- The sum of numbers. -/
def sum (numbers : List Nat) : Nat := numbers.foldr (fun n m => n + m) 0

theorem le_sum {numbers : List Nat} {n : Nat} (h : n ∈ numbers) : n ≤ sum numbers := by
  induction numbers with
  | nil => cases h
  | cons m rest ih =>
      show n ≤ m + sum rest
      rcases List.mem_cons.mp h with h | h
      · rw [h]
        exact Nat.le_add_right m _
      · exact Nat.le_add_left_of_le (ih h)

section

variable {total : Nat} {values : List Nat}

theorem lt_sum_round (hpos : 0 < total) (h : ∀ n ∈ values, n ≤ total) :
    2 * (100 * sum values) + values.length ≤
      2 * (sum (values.map fun n => round n total) * total) + values.length * total := by
  induction values with
  | nil => simp [sum]
  | cons n rest ih =>
      rw [List.forall_mem_cons] at h
      have hfirst := lt_round hpos h.1
      have hrest := ih h.2
      simp only [sum, List.map_cons, List.foldr_cons, List.length_cons, Nat.add_mul] at hrest ⊢
      omega

theorem sum_round_sub_le (h : ∀ n ∈ values, n ≤ total) :
    Nat.pow 10 25 * (2 * (sum (values.map fun n => round n total) * total)) ≤
      Nat.pow 10 25 * (2 * (100 * sum values) + values.length * total) +
        values.length * total := by
  induction values with
  | nil => simp [sum]
  | cons n rest ih =>
      rw [List.forall_mem_cons] at h
      have hfirst := round_sub_le h.1
      have hrest := ih h.2
      simp only [sum, List.map_cons, List.foldr_cons, List.length_cons, Nat.add_mul, Nat.mul_add,
        Nat.one_mul]
        at hfirst hrest ⊢
      omega

/-- Few parts that make a whole have shares whose sum is near one hundred. -/
theorem sum_round_bounds (hpos : 0 < sum values) (hfew : values.length < Nat.pow 10 25) :
    let percents := values.map fun n => round n (sum values)
    200 < 2 * sum percents + values.length ∧ 2 * sum percents ≤ 200 + values.length := by
  intro percents
  have hparts : ∀ n ∈ values, n ≤ sum values := fun n => le_sum
  have hlow := lt_sum_round hpos hparts
  have hhigh := sum_round_sub_le hparts
  have hlength : 0 < values.length := by
    cases values with
    | nil => exact absurd hpos (Nat.lt_irrefl 0)
    | cons n rest => exact Nat.succ_pos _
  change _ ≤ 2 * (sum percents * sum values) + _ at hlow
  change _ * (2 * (sum percents * sum values)) ≤ _ at hhigh
  generalize sum percents = all at hlow hhigh ⊢
  generalize sum values = total at hpos hlow hhigh
  constructor
  · apply Nat.lt_of_mul_lt_mul_right (a := total)
    rw [Nat.add_mul, Nat.mul_assoc 2 all]
    omega
  · apply Nat.le_of_not_lt
    intro hmore
    have hscaled := Nat.mul_le_mul_left (Nat.pow 10 25) (Nat.mul_le_mul_right total hmore)
    have hexcess : values.length * total < Nat.pow 10 25 * total :=
      Nat.mul_lt_mul_of_pos_right hfew hpos
    have hwhole : 2 * (100 * total) = 200 * total := by omega
    generalize Nat.pow 10 25 = scale at hhigh hscaled hexcess
    rw [Nat.mul_assoc 2 all, Nat.succ_mul, Nat.add_mul, Nat.mul_add] at hscaled
    rw [hwhole] at hhigh
    omega

/-- Two parts of a whole that is not huge. -/
theorem round_add_round {n m : Nat} (hpos : 0 < n + m) (hsmall : n + m < Nat.pow 10 25) :
    let both := round n (n + m) + round m (n + m)
    (both = 100 ∨ both = 101) ∧
      (both = 101 ↔ ∃ k, 2 * (100 * n) = (2 * k + 1) * (n + m)) := by
  intro both
  have hfirst := Nat.le_add_right n m
  have hsecond := Nat.le_add_left m n
  have hlowFirst := lt_round hpos hfirst
  have hlowSecond := lt_round hpos hsecond
  have hhighFirst := two_mul_round_le hfirst hsmall
  have hhighSecond := two_mul_round_le hsecond hsmall
  have hboth : both = round n (n + m) + round m (n + m) := rfl
  clear_value both
  generalize round n (n + m) = p at *
  generalize round m (n + m) = q at *
  have hmul : both * (n + m) = p * (n + m) + q * (n + m) := by
    rw [hboth, Nat.add_mul]
  have hleast : 100 ≤ both := by
    apply Nat.le_of_lt_succ
    apply Nat.lt_of_mul_lt_mul_right (a := n + m)
    rw [Nat.succ_mul both]
    omega
  have hgreatest : both ≤ 101 := by
    apply Nat.le_of_mul_le_mul_right (c := n + m) _ hpos
    omega
  refine ⟨by omega, ?_⟩
  constructor
  · intro hmore
    rw [hmore] at hmul
    -- Both percentages are as great as they can be, so both shares end in a half.
    cases p with
    | zero => omega
    | succ k =>
        refine ⟨k, ?_⟩
        rw [Nat.succ_mul k] at hmul hhighFirst hlowFirst
        rw [Nat.add_mul, Nat.mul_assoc]
        omega
  · intro hhalf
    rcases hhalf with ⟨k, hk⟩
    rw [Nat.add_mul, Nat.one_mul, Nat.mul_assoc] at hk
    have hp : k < p := by
      apply Nat.lt_of_mul_lt_mul_right (a := n + m)
      omega
    have hq : 99 < k + q := by
      apply Nat.lt_of_mul_lt_mul_right (a := n + m)
      rw [Nat.add_mul]
      omega
    omega

end

end Percent

namespace Chart

/-!
# Percentages in charts
-/

theorem showsPercentages_ofTraffic {ingress egress : Nat} (hingress : ingress ≤ Counter.limit)
    (hegress : egress ≤ Counter.limit) (textColor : Text) (style : Style) (size : SizeFormat) :
    (ofTraffic ingress egress textColor style size).ShowsPercentages
      [ Percent.round ingress (max 1 (ingress + egress))
      , Percent.round egress (max 1 (ingress + egress)) ] := by
  have htooltip : ∀ (direction : Direction) (n : Nat), n ≤ Counter.limit → n ≤ ingress + egress →
      ∃ t, (SliceFormat.sizeTooltip (ingress + egress) size).apply
          ⟨direction.name, n, direction.color⟩ = .ok t ∧
        t.percentage? = some (Percent.round n (max 1 (ingress + egress))) := by
    intro direction n hn hpart
    rcases size.apply_eq_ok hn with ⟨amount, hamount⟩
    have hpercent : Percent.share n (ingress + egress : Nat) =
        .ok (Percent.round n (max 1 (ingress + egress)) : Nat) :=
      Percent.share_eq_ok (Int.natCast_nonneg n) (Int.ofNat_le.mpr hpart)
    exact ⟨_, SliceFormat.apply_sizeTooltip hpercent hamount, Text.percentage?_sizeTooltip _ _ _⟩
  have hshows : ∀ slice ∈ (ofTraffic ingress egress textColor style size).slices,
      ∃ t, (SliceFormat.sizeTooltip (ingress + egress) size).apply slice = .ok t ∧
        t.percentage? =
          some (Percent.round slice.value.toNat (max 1 (ingress + egress))) := by
    intro slice hslice
    rcases (mem_slices_ofTraffic_iff _ _ _ _ _ _).mp hslice with h | h
    · subst h
      exact htooltip .ingress ingress hingress (Nat.le_add_right _ _)
    · subst h
      exact htooltip .egress egress hegress (Nat.le_add_left _ _)
  exact showsPercentages_map hshows

theorem showsPercentages_ofCounts (counts : Counts) (textColor : Text) (style : Style) :
    let slices := (ofCounts counts textColor style).slices
    (ofCounts counts textColor style).ShowsPercentages
      (slices.map fun slice =>
        Percent.round slice.value.toNat (max 1 (Slice.sum slices).toNat)) := by
  intro slices
  apply showsPercentages_map
  intro slice hslice
  have hnonneg : ∀ slice ∈ slices, 0 ≤ slice.value := fun slice hmem =>
    Int.le_of_lt (pos_of_mem_ofCounts hmem)
  have hpercent := Slice.share_sum_eq_ok hnonneg hslice
  exact ⟨_, SliceFormat.apply_countTooltip hpercent, Text.percentage?_countTooltip _ _ _⟩

theorem toNat_sum {slices : List Slice} (h : ∀ slice ∈ slices, 0 ≤ slice.value) :
    (Slice.sum slices).toNat = Percent.sum (slices.map fun slice => slice.value.toNat) := by
  induction slices with
  | nil => rfl
  | cons slice rest ih =>
      rw [List.forall_mem_cons] at h
      have hrest := Slice.sum_nonneg h.2
      show (slice.value + Slice.sum rest).toNat =
        slice.value.toNat + Percent.sum (rest.map fun slice => slice.value.toNat)
      rw [← ih h.2]
      omega

theorem percentages_ofCounts (counts : Counts) (textColor : Text) (style : Style) :
    ∃ percents, (ofCounts counts textColor style).ShowsPercentages percents ∧
      percents.length = (ofCounts counts textColor style).slices.length ∧
      (0 < percents.length →
        200 < 2 * Percent.sum percents + percents.length ∧
          2 * Percent.sum percents ≤ 200 + percents.length) := by
  refine ⟨_, showsPercentages_ofCounts counts textColor style, List.length_map _, ?_⟩
  have hpositive : ∀ slice ∈ (ofCounts counts textColor style).slices, 0 < slice.value :=
    fun slice => pos_of_mem_ofCounts
  have hlength := length_slices_ofCounts_le counts textColor style
  generalize (ofCounts counts textColor style).slices = slices at hpositive hlength ⊢
  rw [List.length_map, toNat_sum fun slice hmem => Int.le_of_lt (hpositive slice hmem)]
  intro hsome
  have hpos : 0 < Percent.sum (slices.map fun slice => slice.value.toNat) := by
    rcases List.exists_mem_of_length_pos hsome with ⟨slice, hslice⟩
    have hmem : slice.value.toNat ∈ slices.map fun slice => slice.value.toNat :=
      List.mem_map_of_mem hslice
    have hle := Percent.le_sum hmem
    have := hpositive slice hslice
    omega
  have hfew : (slices.map fun slice => slice.value.toNat).length < Nat.pow 10 25 := by
    rw [List.length_map]
    exact Nat.lt_of_le_of_lt hlength (by decide)
  have hbounds := Percent.sum_round_bounds hpos hfew
  rw [List.map_map, List.length_map] at hbounds
  rw [Nat.max_eq_right hpos]
  exact hbounds

/--
The percentages in the tooltips of the traffic chart add up to zero if there is no
traffic.  Otherwise they add up to one hundred, or to one hundred and one if and
only if the shares are half-way between two integers.  The percentages of the
chart of proxies miss one hundred by at most a half for each of its slices, and
fall short of it by less.
-/
theorem percentages_add_up (textColor : Text) (style : Style) :
    (∀ (ingress egress : Int) (size : SizeFormat),
      let received := Counter.ofInt ingress
      let sent := Counter.ofInt egress
      ∃ chart records p q,
        traffic (.int ingress) (.int egress) textColor style size = .ok (chart, records) ∧
          chart.ShowsPercentages [p, q] ∧
          if received = 0 ∧ sent = 0 then p + q = 0
          else (p + q = 100 ∨ p + q = 101) ∧
            (p + q = 101 ↔ ∃ k, 2 * (100 * received) = (2 * k + 1) * (received + sent))) ∧
      ∀ counts : Value,
        let chart := (proxies counts textColor style).1
        ∃ percents, chart.ShowsPercentages percents ∧
          percents.length = chart.slices.length ∧
          (0 < percents.length →
            200 < 2 * Percent.sum percents + percents.length ∧
              2 * Percent.sum percents ≤ 200 + percents.length) := by
  constructor
  · intro ingress egress size received sent
    have hreceived : received ≤ Counter.limit := Counter.ofInt_le ingress
    have hsent : sent ≤ Counter.limit := Counter.ofInt_le egress
    rcases traffic_int ingress egress textColor style size with ⟨records, htraffic⟩
    refine ⟨_, records, _, _, htraffic,
      showsPercentages_ofTraffic hreceived hsent textColor style size, ?_⟩
    split
    · rename_i hnone
      rw [hnone.1, hnone.2]
      decide
    · rename_i hsome
      have hpos : 0 < received + sent := by omega
      have hsmall : received + sent < Nat.pow 10 25 := by
        have : Counter.limit + Counter.limit < Nat.pow 10 25 := by decide
        omega
      rw [Nat.max_eq_right hpos]
      exact Percent.round_add_round hpos hsmall
  · intro counts
    exact percentages_ofCounts (Counts.ofValue counts) textColor style

/-- Shares of 12.5, 12.5 and 75 percent, and of 12.5 and 87.5 percent. -/
theorem percentages_of_halves :
    let counts : Value :=
      .map [(.text "tcp", .int 1), (.text " UDP", .int 1), (.text "xtcp", .text "6")]
    (∃ percents, (proxies counts "#333" Style.rich).1.ShowsPercentages percents ∧
      percents.length = 3 ∧
      200 < 2 * Percent.sum percents + 3 ∧ 2 * Percent.sum percents ≤ 200 + 3) ∧
    ∃ chart records p q,
      traffic (.int 1) (.int 7) "#333" Style.plain .humanized = .ok (chart, records) ∧
        chart.ShowsPercentages [p, q] ∧ p + q = 101 := by
  intro counts
  constructor
  · rcases (percentages_add_up "#333" Style.rich).2 counts with
      ⟨percents, hshows, hlength, hbounds⟩
    have hthree : percents.length = 3 := hlength.trans (by decide)
    rw [hthree] at hbounds
    exact ⟨percents, hshows, hthree, hbounds (by decide)⟩
  · rcases (percentages_add_up "#333" Style.plain).1 1 7 .humanized with
      ⟨chart, records, p, q, htraffic, hshows, hsum⟩
    rw [if_neg (by decide)] at hsum
    exact ⟨chart, records, p, q, htraffic, hshows, hsum.2.mpr ⟨12, by decide⟩⟩

end Chart
end TunnelBoard
