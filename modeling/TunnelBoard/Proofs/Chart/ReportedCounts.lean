import Mathlib.Data.List.Nodup
import TunnelBoard.Chart.Proxies
import TunnelBoard.Proofs.Json.Places
import TunnelBoard.Proofs.Snapshot.Rereading

/-!
# The chart of proxies and the reported counts

A snapshot reports the counts of its proxies in its JSON, and its chart of
proxies is drawn from the same counts.  The chart takes each count for a counter
once more.  It therefore shows a protocol as it is reported if and only if the
reported count is not greater than a counter can be; a greater count, which only
several spellings of one name can add up to, is missing in the chart.
-/

namespace TunnelBoard

/-- The count of a name in the JSON of a snapshot, zero if there is none. -/
def Snapshot.reportedCount (s : Snapshot) (name : Text) : Int :=
  match (s.toJson.field? "proxyTypeCount").bind (Json.field? name) with
  | some (.int n) => n
  | _ => 0

/-- The sum of the counts of all protocols in the JSON of a snapshot. -/
def Snapshot.reportedTotal (s : Snapshot) : Int :=
  Protocol.all.foldr (fun p n => s.reportedCount p.name + n) 0

theorem Snapshot.reportedCount_eq (s : Snapshot) (name : Text) :
    s.reportedCount name = s.proxies.get name := by
  have hfield : s.toJson.field? "proxyTypeCount" = some (.object (countFields s.proxies)) := rfl
  have hlookup : (countFields s.proxies).lookup name =
      (s.proxies.lookup name).map fun n => .int n := by
    induction s.proxies with
    | nil => rfl
    | cons entry rest ih =>
        rcases entry with ⟨known, n⟩
        rw [countFields, List.map_cons, ← countFields, List.lookup_cons, List.lookup_cons, ih]
        cases name == known <;> rfl
  rw [reportedCount, hfield, Option.bind_some, Json.field?, hlookup, Counts.get]
  cases s.proxies.lookup name <;> rfl

namespace Protocol

theorem mem_all (p : Protocol) : p ∈ all := by
  cases p <;> decide

theorem nodup_names : (all.map name).Nodup := by
  decide

theorem name_injective {p q : Protocol} (h : p.name = q.name) : p = q :=
  List.inj_on_of_nodup_map nodup_names (mem_all p) (mem_all q) h

end Protocol

namespace Chart

/-!
# Slices of counts
-/

theorem protocolSlice?_eq_some_iff (counts : Counts) (p : Protocol) (slice : Slice) :
    protocolSlice? counts p = some slice ↔
      0 < counts.get p.name ∧
        slice = { name := p.name, value := counts.get p.name, color := p.color } := by
  unfold protocolSlice?
  cases counts.get p.name with
  | zero => simp
  | succ n =>
      constructor
      · intro h
        exact ⟨Nat.succ_pos n, (Option.some.inj h).symm⟩
      · intro h
        rw [h.2]

theorem mem_slices_iff (counts : Counts) (textColor : Text) (style : Style) (slice : Slice) :
    slice ∈ (ofCounts counts textColor style).slices ↔
      ∃ p : Protocol, 0 < counts.get p.name ∧
        slice = { name := p.name, value := counts.get p.name, color := p.color } := by
  show slice ∈ Protocol.all.filterMap (protocolSlice? counts) ↔ _
  rw [List.mem_filterMap]
  constructor
  · intro h
    rcases h with ⟨p, _, hslice⟩
    exact ⟨p, (protocolSlice?_eq_some_iff counts p slice).mp hslice⟩
  · intro h
    rcases h with ⟨p, hslice⟩
    exact ⟨p, Protocol.mem_all p, (protocolSlice?_eq_some_iff counts p slice).mpr hslice⟩

theorem sum_filterMap_protocolSlice? (counts : Counts) (protocols : List Protocol) :
    Slice.sum (protocols.filterMap (protocolSlice? counts)) =
      protocols.foldr (fun p n => (counts.get p.name : Int) + n) 0 := by
  induction protocols with
  | nil => rfl
  | cons p rest ih =>
      rw [List.foldr_cons, ← ih]
      cases hslice : protocolSlice? counts p with
      | none =>
          have hzero : counts.get p.name = 0 := by
            unfold protocolSlice? at hslice
            split at hslice
            · assumption
            · exact absurd hslice (Option.some_ne_none _)
          rw [List.filterMap_cons_none hslice, hzero]
          exact (Int.zero_add _).symm
      | some slice =>
          rcases (protocolSlice?_eq_some_iff counts p slice).mp hslice with ⟨_, heq⟩
          rw [List.filterMap_cons_some hslice, Slice.sum, heq]

/-- Sums of numbers none of which is greater are equal only if the numbers are. -/
theorem foldr_add_eq_iff {α : Type} {f g : α → Int} {items : List α}
    (h : ∀ a ∈ items, f a ≤ g a) :
    items.foldr (fun a n => f a + n) 0 = items.foldr (fun a n => g a + n) 0 ↔
      ∀ a ∈ items, f a = g a := by
  have hle : ∀ items : List α, (∀ a ∈ items, f a ≤ g a) →
      items.foldr (fun a n => f a + n) 0 ≤ items.foldr (fun a n => g a + n) 0 := by
    intro items
    induction items with
    | nil => exact fun _ => Int.le_refl 0
    | cons a rest ih =>
        intro h
        rw [List.forall_mem_cons] at h
        exact Int.add_le_add h.1 (ih h.2)
  induction items with
  | nil => simp
  | cons a rest ih =>
      rw [List.forall_mem_cons] at h
      have hiff := ih h.2
      have hrest := hle rest h.2
      rw [List.forall_mem_cons, List.foldr_cons, List.foldr_cons]
      constructor
      · intro heq
        exact ⟨by omega, hiff.mp (by omega)⟩
      · intro heq
        have hequal := hiff.mpr heq.2
        omega

/-!
# Agreement
-/

/--
Whether a chart shows a protocol as a snapshot reports it: with a slice if its
count is positive, and then with this count.
-/
def ShowsReported (chart : Chart) (s : Snapshot) (p : Protocol) : Prop :=
  ((∃ slice ∈ chart.slices, slice.name = p.name) ↔ 0 < s.reportedCount p.name) ∧
    ∀ slice ∈ chart.slices, slice.name = p.name → slice.value = s.reportedCount p.name

instance (chart : Chart) (s : Snapshot) (p : Protocol) : Decidable (chart.ShowsReported s p) :=
  inferInstanceAs (Decidable (_ ∧ _))

/-- The chart of the counts of a snapshot has a slice for each positive count that is a counter. -/
theorem mem_slices_proxies_iff {s : Snapshot} (h : s.proxies.IsMerged) (textColor : Text)
    (style : Style) (slice : Slice) :
    slice ∈ (proxies s.proxies.toValue textColor style).1.slices ↔
      ∃ p : Protocol, 0 < s.reportedCount p.name ∧ s.reportedCount p.name ≤ Counter.limit ∧
        slice = { name := p.name, value := s.reportedCount p.name, color := p.color } := by
  show slice ∈ (ofCounts (Counts.ofValue s.proxies.toValue) textColor style).slices ↔ _
  rw [Counts.ofValue_toValue h, mem_slices_iff]
  apply exists_congr
  intro p
  rw [Counts.get_inRange, Counter.ofInt_natCast, s.reportedCount_eq]
  by_cases hle : s.proxies.get p.name ≤ Counter.limit
  · simp [hle]
  · simp [hle]

theorem showsReported_iff {s : Snapshot} (h : s.proxies.IsMerged) (textColor : Text)
    (style : Style) (p : Protocol) :
    (proxies s.proxies.toValue textColor style).1.ShowsReported s p ↔
      s.reportedCount p.name ≤ Counter.limit := by
  constructor
  · intro hshows
    by_cases hzero : 0 < s.reportedCount p.name
    · rcases hshows.1.mpr hzero with ⟨slice, hmem, hname⟩
      rcases (mem_slices_proxies_iff h textColor style slice).mp hmem with ⟨q, _, hle, heq⟩
      rw [heq] at hname
      rw [← Protocol.name_injective hname]
      exact hle
    · have hlimit : (0 : Int) ≤ Counter.limit := Int.natCast_nonneg _
      omega
  · intro hle
    constructor
    · constructor
      · intro hslice
        rcases hslice with ⟨slice, hmem, hname⟩
        rcases (mem_slices_proxies_iff h textColor style slice).mp hmem with ⟨q, hpos, _, heq⟩
        rw [heq] at hname
        rw [← Protocol.name_injective hname]
        exact hpos
      · intro hpos
        exact ⟨_, (mem_slices_proxies_iff h textColor style _).mpr ⟨p, hpos, hle, rfl⟩, rfl⟩
    · intro slice hmem hname
      rcases (mem_slices_proxies_iff h textColor style slice).mp hmem with ⟨q, _, _, heq⟩
      rw [heq] at hname ⊢
      rw [Protocol.name_injective hname]

theorem total_eq_iff {s : Snapshot} (h : s.proxies.IsMerged) (textColor : Text) (style : Style) :
    (proxies s.proxies.toValue textColor style).1.total = s.reportedTotal ↔
      ∀ p : Protocol, s.reportedCount p.name ≤ Counter.limit := by
  have htotal : (proxies s.proxies.toValue textColor style).1.total =
      Protocol.all.foldr (fun p n => (Counter.ofInt (s.proxies.get p.name) : Int) + n) 0 := by
    show Slice.sum (Protocol.all.filterMap (protocolSlice? (Counts.ofValue s.proxies.toValue))) = _
    rw [Counts.ofValue_toValue h, sum_filterMap_protocolSlice?]
    simp only [Counts.get_inRange]
  have hcount : ∀ p : Protocol,
      (Counter.ofInt (s.proxies.get p.name) : Int) ≤ s.reportedCount p.name ∧
        ((Counter.ofInt (s.proxies.get p.name) : Int) = s.reportedCount p.name ↔
          s.reportedCount p.name ≤ Counter.limit) := by
    intro p
    rw [s.reportedCount_eq, Counter.ofInt_natCast]
    split <;> omega
  rw [htotal, Snapshot.reportedTotal, foldr_add_eq_iff fun p _ => (hcount p).1]
  constructor
  · intro heq p
    exact (hcount p).2.mp (heq p (Protocol.mem_all p))
  · intro hle p _
    exact (hcount p).2.mpr (hle p)

/--
For a snapshot read from any mapping, the chart of its proxies and its JSON say
the same of a protocol if and only if the reported count is not greater than a
counter can be, and a greater count is not shown at all.  The total of the chart
is the sum of the reported counts if and only if they say the same of all
protocols.
-/
theorem proxies_showsReported_iff (entries : List (Value × Value)) (textColor : Text)
    (style : Style) :
    let s := Snapshot.ofEntries entries
    let chart := (proxies s.proxies.toValue textColor style).1
    (∀ p : Protocol, chart.ShowsReported s p ↔ s.reportedCount p.name ≤ Counter.limit) ∧
      (∀ p : Protocol, Counter.limit < s.reportedCount p.name →
        ∀ slice ∈ chart.slices, slice.name ≠ p.name) ∧
      (chart.total = s.reportedTotal ↔
        ∀ p : Protocol, chart.ShowsReported s p) := by
  intro s chart
  have hmerged : s.proxies.IsMerged := Snapshot.isMerged_proxies_ofEntries entries
  refine ⟨showsReported_iff hmerged textColor style, ?_, ?_⟩
  · intro p hgreater slice hmem hname
    rcases (mem_slices_proxies_iff hmerged textColor style slice).mp hmem with ⟨q, _, hle, heq⟩
    rw [heq] at hname
    rw [Protocol.name_injective hname] at hle
    omega
  · rw [total_eq_iff hmerged]
    exact forall_congr' fun p => (showsReported_iff hmerged textColor style p).symm

/-- Two spellings of a name add up to a count that is reported and not shown. -/
example :
    let s := Snapshot.ofEntries
      [(.text "proxyTypeCount",
        .map [(.text "TCP", .int Counter.limit), (.text " tcp", .int 1), (.text "udp", .int 1)])]
    let chart := (proxies s.proxies.toValue "#333" Style.plain).1
    ¬ chart.ShowsReported s .tcp ∧ chart.ShowsReported s .udp := by
  decide

end Chart
end TunnelBoard
