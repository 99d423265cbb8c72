import TunnelBoard.Proofs.Chart.Slices
import TunnelBoard.Proofs.Snapshot.Tallies

/-!
# Conservation of counts

The chart of proxies neither loses nor duplicates nor reorders counts.  Its slices are
the protocols with a positive tally in their fixed order, and their sum is the sum of
the counters of all entries that spell a protocol.  The names of all other entries are
logged, each once, in the order of their code points.
-/

namespace TunnelBoard

/-!
# The order of code points
-/

theorem Text.precedes_iff_lt (s t : Text) : s.precedes t = true ↔ s < t := by
  induction s generalizing t with
  | nil =>
      cases t with
      | nil => simp [precedes]
      | cons b t => simp [precedes]
  | cons a s ih =>
      cases t with
      | nil => simp [precedes]
      | cons b t =>
          rw [List.cons_lt_cons_iff, ← ih t]
          simp [precedes]

theorem Text.not_precedes_iff (s t : Text) : (!s.precedes t) = true ↔ ¬ s < t := by
  rw [Bool.not_eq_true', ← Bool.not_eq_true, precedes_iff_lt]

/-- Different texts that are put in order are in strict order. -/
theorem Text.pairwise_lt_mergeSort {texts : List Text} (h : texts.Nodup) :
    (texts.mergeSort fun s t => !t.precedes s).Pairwise (· < ·) := by
  have hsorted : (texts.mergeSort fun s t => !t.precedes s).Pairwise
      fun s t => (!t.precedes s) = true := by
    apply List.pairwise_mergeSort
    · intro a b c
      simp only [not_precedes_iff]
      intro hba hcb hca
      exact hba (List.lt_of_le_of_lt (List.not_lt.mp hcb) hca)
    · intro a b
      simp only [Bool.or_eq_true, not_precedes_iff]
      exact Decidable.not_and_iff_or_not.mp fun h => List.lt_asymm h.1 h.2
  have hnodup : (texts.mergeSort fun s t => !t.precedes s).Nodup :=
    (List.mergeSort_perm texts _).nodup_iff.mpr h
  apply (hsorted.and hnodup).imp
  intro s t hst
  have hnot : ¬ t < s := (not_precedes_iff t s).mp hst.1
  apply Decidable.byContradiction
  intro hless
  exact hst.2 (List.le_antisymm (List.not_lt.mp hnot) (List.not_lt.mp hless))

/-!
# Names of protocols
-/

namespace Protocol

theorem name_ne_nil (p : Protocol) : p.name ≠ [] := by
  cases p <;> decide

theorem isSome_ofName? (t : Text) : (ofName? t).isSome = (all.map name).contains t := by
  rw [ofName?, List.isSome_find?, List.contains_eq_any_beq, List.any_map]
  apply List.any_congr rfl
  intro p
  rw [Function.comp_apply, Bool.beq_eq_decide_eq]
  exact decide_eq_decide.mpr eq_comm

theorem ofName?_eq_none_iff (t : Text) : ofName? t = none ↔ ∀ p : Protocol, p.name ≠ t := by
  simp [ofName?, mem_all]

end Protocol

namespace Chart

/-!
# Names that are left out
-/

theorem mem_strangers_iff (counts : Counts) (name : Text) :
    name ∈ strangers counts ↔
      name ∈ counts.map Prod.fst ∧ ∀ p : Protocol, p.name ≠ name := by
  rw [strangers, (List.mergeSort_perm _ _).mem_iff, List.mem_filter, Option.isNone_iff_eq_none,
    Protocol.ofName?_eq_none_iff]

theorem strangerRecords_eq (counts : Counts) :
    strangerRecords counts =
      if strangers counts = [] then []
      else
        [⟨.debug, .charts, "Ignoring unknown proxy types in chart input: " ++
          Text.join ", " (strangers counts)⟩] := by
  unfold strangerRecords
  split
  · rename_i hnone
    rw [if_pos hnone]
  · rename_i hsome
    rw [if_neg hsome]

/-!
# Slices
-/

theorem filterMap_protocolSlice? (counts : Counts) (protocols : List Protocol) :
    protocols.filterMap (protocolSlice? counts) =
      (protocols.filter fun p => 0 < counts.get p.name).map fun p =>
        { name := p.name, value := counts.get p.name, color := p.color } := by
  induction protocols with
  | nil => rfl
  | cons p rest ih =>
      rw [List.filterMap_cons, ih]
      unfold protocolSlice?
      cases hcount : counts.get p.name with
      | zero => simp [hcount]
      | succ n => simp [hcount]

theorem slices_ofEntries (entries : List (Value × Value)) (textColor : Text) (style : Style) :
    (ofCounts (Counts.ofEntries entries) textColor style).slices =
      (Protocol.all.filter fun p => 0 < Counts.tally entries p.name).map fun p =>
        { name := p.name, value := Counts.tally entries p.name, color := p.color } := by
  show Protocol.all.filterMap (protocolSlice? _) = _
  rw [filterMap_protocolSlice?]
  simp only [Counts.get_ofEntries entries (Protocol.name_ne_nil _)]

theorem total_ofEntries (entries : List (Value × Value)) (textColor : Text) (style : Style) :
    (ofCounts (Counts.ofEntries entries) textColor style).total =
      Counts.tallyWhere (fun name => (Protocol.ofName? name).isSome) entries := by
  have hsum : ∀ protocols : List Protocol,
      protocols.foldr (fun p n => ((Counts.ofEntries entries).get p.name : Int) + n) 0 =
        (((protocols.map Protocol.name).map (Counts.tally entries)).sum : Nat) := by
    intro protocols
    induction protocols with
    | nil => rfl
    | cons p rest ih =>
        rw [List.foldr_cons, ih, Counts.get_ofEntries entries p.name_ne_nil, List.map_cons,
          List.map_cons, List.sum_cons, Int.natCast_add]
  show Slice.sum (Protocol.all.filterMap (protocolSlice? _)) = _
  rw [sum_filterMap_protocolSlice?, hsum, Counts.sum_tally Protocol.nodup_names]
  simp only [Protocol.isSome_ofName?]

/--
The slices of the chart of proxies are the protocols with a positive tally, in the
order of the protocols and each with its tally and its color.  The legend names them,
and their sum, which the tooltips are made with, is that of the counters of all entries
that spell a protocol.  The other names are logged in a single record, each once and in
the order of their code points, if there are any; a blank key has no name.
-/
theorem proxies_conserve_counts (entries : List (Value × Value)) (textColor : Text)
    (style : Style) :
    let chart := (proxies (.map entries) textColor style).1
    let records := (proxies (.map entries) textColor style).2
    let total := Counts.tallyWhere (fun name => (Protocol.ofName? name).isSome) entries
    chart.slices =
        (Protocol.all.filter fun p => 0 < Counts.tally entries p.name).map (fun p =>
          { name := p.name, value := Counts.tally entries p.name, color := p.color }) ∧
      (chart.slices.map Slice.name).Nodup ∧
      chart.legend = chart.slices.map Slice.name ∧
      chart.total = total ∧
      chart.tooltip = .countTooltip total ∧
      ∃ names : List Text,
        names.Pairwise (· < ·) ∧
          (∀ name, name ∈ names ↔
            (name ≠ [] ∧ ∃ entry ∈ entries, Counts.nameOf entry.1 = name) ∧
              ∀ p : Protocol, p.name ≠ name) ∧
          records =
            if names = [] then []
            else
              [⟨.debug, .charts,
                "Ignoring unknown proxy types in chart input: " ++ Text.join ", " names⟩] := by
  intro chart records total
  have htotal : chart.total = total := total_ofEntries entries textColor style
  refine ⟨slices_ofEntries entries textColor style, nodup_names_ofCounts _ textColor style, rfl,
    htotal, congrArg SliceFormat.countTooltip htotal,
    strangers (Counts.ofEntries entries), ?_, ?_, strangerRecords_eq _⟩
  · have hnodup : ((Counts.ofEntries entries).map Prod.fst).Nodup :=
      (Counts.isMerged_ofEntries entries).nodup
    exact Text.pairwise_lt_mergeSort (hnodup.filter _)
  · intro name
    rw [mem_strangers_iff, Counts.mem_names_ofEntries]

/-- Two spellings of a protocol are one slice, in the order of the protocols. -/
example :
    let counts : Value :=
      .map [(.text "xtcp", .int 1), (.text "quic", .int 5), (.text " UDP", .text "2"),
        (.text "udp", .float (.finite false 3 (-1))), (.text "TCP", .int (-1))]
    ((proxies counts "#333" Style.rich).1.slices.map fun slice => (slice.name, slice.value)) =
      [(("udp" : Text), (3 : Int)), (("xtcp" : Text), (1 : Int))] := by
  decide +kernel

end Chart
end TunnelBoard
