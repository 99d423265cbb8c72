import Mathlib.Data.List.Induction
import Mathlib.Order.Fin.Basic
import TunnelBoard.Proofs.Snapshot.Tallies
import TunnelBoard.Proofs.Text.Padding

/-!
# Grouping

Counts are the entries of a mapping grouped by name: each name that a key spells stands
at the place of its first entry, with its tally.  So the order of the entries only
decides the order of the names, and the counts of a mapping are those of its parts taken
together.
-/

namespace TunnelBoard
namespace Counts

/-- The names that the keys of entries spell, entry by entry; a blank key spells none. -/
def spelled (entries : List (Value × Value)) : List Text :=
  (entries.map fun entry => nameOf entry.1).filter fun name => !name.isEmpty

theorem spelled_append (a b : List (Value × Value)) :
    spelled (a ++ b) = spelled a ++ spelled b := by
  rw [spelled, List.map_append, List.filter_append, ← spelled, ← spelled]

theorem spelled_singleton (entry : Value × Value) :
    spelled [entry] = if nameOf entry.1 = [] then [] else [nameOf entry.1] := by
  by_cases h : nameOf entry.1 = [] <;> simp [spelled, h]

theorem mem_spelled (entries : List (Value × Value)) (name : Text) :
    name ∈ spelled entries ↔ name ≠ [] ∧ ∃ entry ∈ entries, nameOf entry.1 = name := by
  simp [spelled, and_comm]

/-!
# Names in order

Adding an entry puts its name behind the others if it is new, which is how repetitions
are dropped from a list when one more name is put behind it.
-/

theorem names_addEntry (counts : Counts) (entry : Value × Value) :
    (counts.addEntry entry).map Prod.fst =
      counts.map Prod.fst ++
        if nameOf entry.1 = [] ∨ nameOf entry.1 ∈ counts.map Prod.fst then []
        else [nameOf entry.1] := by
  unfold addEntry
  by_cases hblank : nameOf entry.1 = []
  · rw [if_pos (List.isEmpty_iff.mpr hblank), if_pos (Or.inl hblank), List.append_nil]
  · rw [if_neg (mt List.isEmpty_iff.mp hblank), names_add]
    simp only [hblank, false_or, List.contains_iff_mem]

theorem eraseDups_concat (names : List Text) (name : Text) :
    (names ++ [name]).eraseDups = names.eraseDups ++ if name ∈ names then [] else [name] := by
  rw [List.eraseDups_append]
  by_cases h : name ∈ names
  · rw [if_pos h, List.removeAll, List.filter_cons_of_neg (by simpa using h)]
    rfl
  · rw [if_neg h, List.removeAll, List.filter_cons_of_pos (by simpa using h)]
    rfl

/-- Names stand in the order of the entries that spell them first. -/
theorem names_ofEntries (entries : List (Value × Value)) :
    (ofEntries entries).map Prod.fst = (spelled entries).eraseDups := by
  induction entries using List.reverseRecOn with
  | nil => rfl
  | append_singleton front entry ih =>
      have hlast : ofEntries (front ++ [entry]) = (ofEntries front).addEntry entry :=
        List.foldl_append
      rw [hlast, names_addEntry, ih, spelled_append, spelled_singleton]
      by_cases hblank : nameOf entry.1 = []
      · rw [if_pos (Or.inl hblank), if_pos hblank, List.append_nil, List.append_nil]
      · rw [if_neg hblank, eraseDups_concat]
        simp only [hblank, false_or, List.mem_eraseDups]

/-!
# Counts as a whole

Counts without repeated names are determined by their names and by what they hold of
each, so they can be written down without a loop.
-/

theorem eq_map_get {counts : Counts} (h : (counts.map Prod.fst).Nodup) :
    counts = (counts.map Prod.fst).map fun name => (name, counts.get name) := by
  induction counts with
  | nil => rfl
  | cons entry rest ih =>
      rcases entry with ⟨known, n⟩
      rcases List.nodup_cons.mp h with ⟨hnew, hrest⟩
      have hothers : ∀ name ∈ rest.map Prod.fst,
          (name, get ((known, n) :: rest) name) = (name, get rest name) := by
        intro name hname
        have hother : name ≠ known := fun heq => hnew (heq ▸ hname)
        rw [get_cons, if_neg hother]
      rw [List.map_cons, List.map_cons, List.map_congr_left hothers, ← ih hrest, get_cons,
        if_pos rfl]

theorem ofEntries_eq (entries : List (Value × Value)) :
    ofEntries entries =
      (spelled entries).eraseDups.map fun name => (name, tally entries name) := by
  have htally : ∀ name ∈ (spelled entries).eraseDups,
      (name, (ofEntries entries).get name) = (name, tally entries name) := by
    intro name hname
    rw [List.mem_eraseDups, mem_spelled] at hname
    rw [get_ofEntries entries hname.1]
  rw [← List.map_congr_left htally, ← names_ofEntries]
  exact eq_map_get (isMerged_ofEntries entries).nodup

theorem nodup_eraseDups_spelled (entries : List (Value × Value)) :
    (spelled entries).eraseDups.Nodup := by
  rw [← names_ofEntries]
  exact (isMerged_ofEntries entries).nodup

theorem ofEntries_perm {entries others : List (Value × Value)} (h : entries.Perm others) :
    (ofEntries entries).Perm (ofEntries others) := by
  have hnames : (spelled entries).eraseDups.Perm (spelled others).eraseDups := by
    apply (List.perm_ext_iff_of_nodup (nodup_eraseDups_spelled entries)
      (nodup_eraseDups_spelled others)).mpr
    intro name
    rw [List.mem_eraseDups, List.mem_eraseDups, mem_spelled, mem_spelled]
    simp only [h.mem_iff]
  have htally : tally entries = tally others := by
    funext name
    exact tallyWhere_perm _ h
  rw [ofEntries_eq, ofEntries_eq, htally]
  exact hnames.map _

/-!
# Mappings in parts
-/

theorem lookup_map_of_mem (f : Text → Nat) (names : List Text) (name : Text) :
    (names.map fun known => (known, f known)).lookup name =
      if name ∈ names then some (f name) else none := by
  induction names with
  | nil => rfl
  | cons known rest ih =>
      rw [List.map_cons, List.lookup_cons, ih]
      by_cases h : name = known
      · simp [h]
      · have differ : (name == known) = false := beq_false_of_ne h
        simp [h, differ]

theorem lookup_ofEntries (entries : List (Value × Value)) (name : Text) :
    (ofEntries entries).lookup name =
      if name ∈ spelled entries then some (tally entries name) else none := by
  rw [ofEntries_eq, lookup_map_of_mem]
  simp only [List.mem_eraseDups]

theorem tally_append (a b : List (Value × Value)) (name : Text) :
    tally (a ++ b) name = tally a name + tally b name := by
  unfold tally tallyWhere
  rw [List.filter_append, List.map_append, List.sum_append]

theorem tally_of_not_mem {entries : List (Value × Value)} {name : Text} (hne : name ≠ [])
    (h : name ∉ spelled entries) : tally entries name = 0 := by
  have hnone : ∀ entry ∈ entries, ¬ decide (nameOf entry.1 = name) = true := by
    intro entry hentry heq
    exact h ((mem_spelled entries name).mpr ⟨hne, entry, hentry, of_decide_eq_true heq⟩)
  rw [tally, tallyWhere, List.filter_eq_nil_iff.mpr hnone]
  rfl

/-- What is held of a name in two parts together: the sum, or what one of them holds. -/
theorem lookup_ofEntries_append (a b : List (Value × Value)) (name : Text) :
    (ofEntries (a ++ b)).lookup name =
      Option.merge (· + ·) ((ofEntries a).lookup name) ((ofEntries b).lookup name) := by
  simp only [lookup_ofEntries, spelled_append, tally_append, List.mem_append]
  by_cases ha : name ∈ spelled a
  · rw [if_pos ha, if_pos (Or.inl ha)]
    by_cases hb : name ∈ spelled b
    · rw [if_pos hb, Option.merge_some_some]
    · rw [if_neg hb, tally_of_not_mem ((mem_spelled a name).mp ha).1 hb, Nat.add_zero,
        Option.merge_none_right]
  · rw [if_neg ha, Option.merge_none_left]
    by_cases hb : name ∈ spelled b
    · rw [if_pos hb, if_pos (Or.inr hb), tally_of_not_mem ((mem_spelled b name).mp hb).1 ha,
        Nat.zero_add]
    · rw [if_neg hb, if_neg (not_or.mpr ⟨ha, hb⟩)]

/-!
# All names together
-/

theorem nameOf_eq_nil_iff (key : Value) :
    nameOf key = [] ↔ ∀ c ∈ key.plain, c.isBlank = true := by
  rw [nameOf, Text.lower_eq_nil_iff, Text.trim_eq_nil_iff]

theorem sum_ofEntries (entries : List (Value × Value)) :
    ((ofEntries entries).map Prod.snd).sum =
      tallyWhere (fun name => decide (name ≠ [])) entries := by
  have hvalues : (ofEntries entries).map Prod.snd =
      (spelled entries).eraseDups.map (tally entries) := by
    rw [ofEntries_eq, List.map_map]
    rfl
  rw [hvalues, sum_tally (nodup_eraseDups_spelled entries)]
  apply tallyWhere_congr
  intro entry hentry
  rw [Bool.eq_iff_iff, List.contains_iff_mem, List.mem_eraseDups, mem_spelled, decide_eq_true_iff]
  exact and_iff_left ⟨entry, hentry, rfl⟩

/--
The counts of a mapping are its entries grouped by name.  The names are those that keys
spell, trimmed and in small letters, each once and in the order of first occurrence, and
each has the sum of the counters of all entries that spell it, zero included.  Entries in
another order give the same counts in another order; a mapping divided into two parts
holds of each name what its parts hold together, and all counts together are the counters
of the entries whose keys are not blank.  A name that is trimmed and lower-cased again
stays the same.
-/
theorem ofValue_groups (entries : List (Value × Value)) :
    let counts := ofValue (.map entries)
    counts.map Prod.fst =
        ((entries.map fun entry => entry.1.plain.trim.lower).filter fun name =>
          !name.isEmpty).eraseDups ∧
      (∀ entry ∈ counts,
        entry.2 =
          ((entries.filter fun other => other.1.plain.trim.lower = entry.1).map fun other =>
            Counter.ofValue other.2).sum) ∧
      (∀ others, entries.Perm others → counts.Perm (ofValue (.map others))) ∧
      (∀ a b, entries.Perm (a ++ b) → ∀ name,
        counts.lookup name =
          Option.merge (· + ·) ((ofValue (.map a)).lookup name)
            ((ofValue (.map b)).lookup name)) ∧
      (counts.map Prod.snd).sum =
        ((entries.filter fun entry => entry.1.plain.any fun c => !c.isBlank).map fun entry =>
          Counter.ofValue entry.2).sum ∧
      ∀ name ∈ counts.map Prod.fst, name.trim.lower = name := by
  intro counts
  refine ⟨names_ofEntries entries, ?_, fun _ => ofEntries_perm, ?_, ?_, ?_⟩
  · intro entry hentry
    have hmem : entry ∈ (spelled entries).eraseDups.map fun name => (name, tally entries name) := by
      rw [← ofEntries_eq]
      exact hentry
    rcases List.mem_map.mp hmem with ⟨name, _, heq⟩
    subst heq
    rfl
  · intro a b h name
    have htotal : counts.lookup name = (ofEntries (a ++ b)).lookup name := by
      have hmem : name ∈ spelled entries ↔ name ∈ spelled (a ++ b) := by
        rw [mem_spelled, mem_spelled]
        simp only [h.mem_iff]
      show (ofEntries entries).lookup name = _
      rw [lookup_ofEntries, lookup_ofEntries, tally, tallyWhere_perm _ h, ← tally]
      simp only [hmem]
    rw [htotal]
    exact lookup_ofEntries_append a b name
  · have hfilled : ∀ entry ∈ entries,
        decide (nameOf entry.1 ≠ []) = entry.1.plain.any fun c => !c.isBlank := by
      intro entry _
      rw [Bool.eq_iff_iff, decide_eq_true_iff, ne_eq, nameOf_eq_nil_iff, List.any_eq_true]
      simp
    show ((ofEntries entries).map Prod.snd).sum = _
    rw [sum_ofEntries, tallyWhere, List.filter_congr hfilled]
  · intro name hname
    exact ((isMerged_ofEntries entries).isName name hname).2

/-- Three spellings of one protocol, a count of zero and a blank key, in two orders and parts. -/
theorem ofValue_of_parts :
    let front : List (Value × Value) := [(.text " \tTCP", .int 2), (.text "sudp", .int (-1))]
    let back : List (Value × Value) := [(.text "tcp", .text "1.5"), (.text "\u3000", .int 9)]
    let counts : Counts := ofValue (.map (front ++ back))
    counts = [(("tcp" : Text), 3), (("sudp" : Text), 0)] ∧
      (front ++ back).Perm (back ++ front) ∧
      counts.Perm (ofValue (.map (back ++ front))) ∧
      ("tcp" : Text) ∈ counts.map Prod.fst ∧
      counts.lookup ("tcp" : Text) =
        Option.merge (· + ·) ((ofValue (.map front)).lookup ("tcp" : Text))
          ((ofValue (.map back)).lookup ("tcp" : Text)) := by
  intro front back counts
  have hgroups := ofValue_groups (front ++ back)
  have hperm : (front ++ back).Perm (back ++ front) := List.perm_append_comm
  refine ⟨by decide +kernel, hperm, hgroups.2.2.1 _ hperm, by decide +kernel, ?_⟩
  exact hgroups.2.2.2.1 front back (List.Perm.refl _) "tcp"

end Counts
end TunnelBoard
