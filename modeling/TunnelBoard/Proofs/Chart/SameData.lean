import Mathlib.Logic.Relation
import TunnelBoard.Proofs.Chart.Conservation
import TunnelBoard.Proofs.Text.Padding

/-!
# Charts of the same data

Two charts of proxies are equal if and only if they have the same text color and style
and every protocol has the same tally in both mappings.  Mappings that only differ in
how their entries are ordered, spelled, split or filled up therefore have the same
chart, and every difference between two tallies shows in the slices.
-/

namespace TunnelBoard

namespace Counts

/-!
# Restating entries

Steps from a mapping to another one that says the same of all protocols.
-/

/-- Whether other entries are made from entries by a single step that keeps their data. -/
inductive Restates : List (Value × Value) → List (Value × Value) → Prop where
  | permuted {entries others : List (Value × Value)} (h : entries.Perm others) :
      Restates entries others
  /-- Blanks are put around a key. -/
  | padded {front back : List (Value × Value)} {v : Value} {before after : Text} (t : Text)
      (hbefore : ∀ c ∈ before, c.isBlank = true) (hafter : ∀ c ∈ after, c.isBlank = true) :
      Restates (front ++ (.text t, v) :: back)
        (front ++ (.text (before ++ (t ++ after)), v) :: back)
  /-- Letters of a key are replaced by others with the same small letters. -/
  | recased {front back : List (Value × Value)} {v : Value} {s t : Text}
      (h : s.lower = t.lower) :
      Restates (front ++ (.text s, v) :: back) (front ++ (.text t, v) :: back)
  /-- A count is split over two spellings of its name. -/
  | split {front back : List (Value × Value)} {key first second v part rest : Value}
      (hfirst : nameOf first = nameOf key) (hsecond : nameOf second = nameOf key)
      (hsum : Counter.ofValue part + Counter.ofValue rest = Counter.ofValue v) :
      Restates (front ++ (key, v) :: back) (front ++ (first, part) :: (second, rest) :: back)
  /-- An entry is added that counts nothing, or spells no protocol. -/
  | filled {front back : List (Value × Value)} {key v : Value}
      (h : Counter.ofValue v = 0 ∨ ∀ p : Protocol, p.name ≠ nameOf key) :
      Restates (front ++ back) (front ++ (key, v) :: back)

theorem nameOf_text (t : Text) : nameOf (.text t) = t.lower.trim := (Text.trim_lower t).symm

theorem tally_append_cons (front back : List (Value × Value)) (entry : Value × Value)
    (name : Text) :
    tally (front ++ entry :: back) name =
      (if nameOf entry.1 = name then Counter.ofValue entry.2 else 0) +
        tally (front ++ back) name := by
  rw [← tally_cons]
  exact tallyWhere_perm _ List.perm_middle

theorem tally_eq_of_restates {entries others : List (Value × Value)}
    (h : Restates entries others) (p : Protocol) :
    tally entries p.name = tally others p.name := by
  cases h with
  | permuted h => exact tallyWhere_perm _ h
  | padded t hbefore hafter =>
      have hname : nameOf (.text t) = nameOf (.text _) :=
        congrArg Text.lower (Text.trim_padded hbefore hafter t).symm
      rw [tally_append_cons, tally_append_cons, hname]
  | recased h =>
      rw [tally_append_cons, tally_append_cons, nameOf_text, nameOf_text, h]
  | split hfirst hsecond hsum =>
      rw [tally_append_cons, tally_append_cons, tally_append_cons, hfirst, hsecond, ← hsum]
      split
      · rw [Nat.add_assoc]
      · rw [Nat.zero_add, Nat.zero_add]
  | filled h =>
      rw [tally_append_cons]
      rcases h with hzero | hother
      · rw [hzero, ite_self, Nat.zero_add]
      · rw [if_neg (hother p).symm, Nat.zero_add]

theorem tally_eq_of_eqvGen {entries others : List (Value × Value)}
    (h : Relation.EqvGen Restates entries others) (p : Protocol) :
    tally entries p.name = tally others p.name := by
  induction h with
  | rel entries others hstep => exact tally_eq_of_restates hstep p
  | refl entries => rfl
  | symm entries others _ ih => exact ih.symm
  | trans entries between others _ _ hfirst hsecond => exact hfirst.trans hsecond

end Counts

namespace Chart

/-!
# Equal slices
-/

theorem get_le_of_slices_subset {counts others : Counts} {c d : Text} {s u : Style}
    (h : (ofCounts counts c s).slices ⊆ (ofCounts others d u).slices) (p : Protocol) :
    counts.get p.name ≤ others.get p.name := by
  rcases Nat.eq_zero_or_pos (counts.get p.name) with hzero | hpos
  · rw [hzero]
    exact Nat.zero_le _
  · rcases (mem_slices_iff others d u _).mp (h ((mem_slices_iff counts c s _).mpr
      ⟨p, hpos, rfl⟩)) with ⟨q, _, hslice⟩
    rcases Slice.mk.inj hslice with ⟨hname, hvalue, _⟩
    rw [← Protocol.name_injective hname] at hvalue
    exact Int.ofNat_le.mp (Int.le_of_eq hvalue)

theorem slices_eq_iff (counts others : Counts) (c d : Text) (s u : Style) :
    (ofCounts counts c s).slices = (ofCounts others d u).slices ↔
      ∀ p : Protocol, counts.get p.name = others.get p.name := by
  constructor
  · intro h p
    exact Nat.le_antisymm (get_le_of_slices_subset (fun _ hmem => h ▸ hmem) p)
      (get_le_of_slices_subset (fun _ hmem => h ▸ hmem) p)
  · intro h
    have hslice : protocolSlice? counts = protocolSlice? others := by
      funext p
      rw [protocolSlice?, protocolSlice?, h p]
    exact congrArg (Protocol.all.filterMap ·) hslice

theorem ofCounts_eq_iff (counts others : Counts) (c d : Text) (s u : Style) :
    ofCounts counts c s = ofCounts others d u ↔
      c = d ∧ s = u ∧ ∀ p : Protocol, counts.get p.name = others.get p.name := by
  constructor
  · intro h
    exact ⟨congrArg textColor h, congrArg style h,
      (slices_eq_iff counts others c d s u).mp (congrArg slices h)⟩
  · intro h
    rcases h with ⟨hcolor, hstyle, hcounts⟩
    have hslices := (slices_eq_iff counts others c d s u).mpr hcounts
    change Protocol.all.filterMap _ = Protocol.all.filterMap _ at hslices
    rw [ofCounts, ofCounts, hslices, hcolor, hstyle]

/--
Charts of proxies are equal if and only if text color, style and the tallies of all
protocols are.  Steps that restate the entries, in any number and in either direction,
keep the chart, and different tallies of a protocol show in the slices, whatever the
text colors and styles are.
-/
theorem proxies_eq_iff (a b : List (Value × Value)) (c d : Text) (s u : Style) :
    ((proxies (.map a) c s).1 = (proxies (.map b) d u).1 ↔
        c = d ∧ s = u ∧ ∀ p : Protocol, Counts.tally a p.name = Counts.tally b p.name) ∧
      (Relation.EqvGen Counts.Restates a b →
        (proxies (.map a) c s).1 = (proxies (.map b) c s).1) ∧
      ∀ p : Protocol, Counts.tally a p.name ≠ Counts.tally b p.name →
        (proxies (.map a) c s).1.slices ≠ (proxies (.map b) d u).1.slices := by
  have htally : ∀ p : Protocol,
      (Counts.ofEntries a).get p.name = (Counts.ofEntries b).get p.name ↔
        Counts.tally a p.name = Counts.tally b p.name := by
    intro p
    rw [Counts.get_ofEntries a p.name_ne_nil, Counts.get_ofEntries b p.name_ne_nil]
  have heq : ∀ (c d : Text) (s u : Style),
      (proxies (.map a) c s).1 = (proxies (.map b) d u).1 ↔
        c = d ∧ s = u ∧ ∀ p : Protocol, Counts.tally a p.name = Counts.tally b p.name := by
    intro c d s u
    show ofCounts (Counts.ofEntries a) c s = ofCounts (Counts.ofEntries b) d u ↔ _
    rw [ofCounts_eq_iff, forall_congr' htally]
  refine ⟨heq c d s u, ?_, ?_⟩
  · intro h
    exact (heq c c s s).mpr ⟨rfl, rfl, Counts.tally_eq_of_eqvGen h⟩
  · intro p hdiffer h
    exact hdiffer ((htally p).mp ((slices_eq_iff _ _ c d s u).mp h p))

/-- Two spellings that add up, a step from one of them to the other, and a count that differs. -/
theorem proxies_of_spellings :
    let merged : List (Value × Value) := [(.text "tcp", .int 3)]
    let padded : List (Value × Value) := [(.text (" " ++ ("tcp" ++ " ") : Text), .int 3)]
    let divided : List (Value × Value) :=
      [(.text "TCP", .int 2), (.text "quic", .int 9), (.text "tcp ", .text "1.5")]
    (proxies (.map divided) "#333" Style.rich).1 = (proxies (.map merged) "#333" Style.rich).1 ∧
      (proxies (.map merged) "#333" Style.rich).1 = (proxies (.map padded) "#333" Style.rich).1 ∧
      (proxies (.map padded) "#333" Style.rich).1.slices ≠
        (proxies (.map (padded ++ divided)) "#fff" Style.plain).1.slices := by
  intro merged padded divided
  have hblank : ∀ c ∈ (" " : Text), c.isBlank = true := by
    intro c hc
    rw [List.mem_singleton.mp hc]
    rfl
  have hstep : Counts.Restates ([] ++ merged) ([] ++ padded) := .padded "tcp" hblank hblank
  refine ⟨?_, ?_, ?_⟩
  · apply (proxies_eq_iff divided merged "#333" "#333" Style.rich Style.rich).1.mpr
    refine ⟨rfl, rfl, ?_⟩
    intro p
    cases p <;> decide +kernel
  · exact (proxies_eq_iff merged padded "#333" "#333" Style.rich Style.rich).2.1
      (.rel _ _ hstep)
  · exact (proxies_eq_iff padded (padded ++ divided) "#333" "#fff" Style.rich Style.plain).2.2 .tcp
      (by decide +kernel)

end Chart
end TunnelBoard
