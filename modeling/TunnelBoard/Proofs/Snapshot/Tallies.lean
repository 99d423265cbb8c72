import Mathlib.Algebra.Ring.Nat
import TunnelBoard.Proofs.Snapshot.Merging

/-!
# Tallies

What counts hold of a name is decided by the entries alone: it is the tally of the
name, the sum of the counters of all entries whose keys spell it, wherever they stand
and however they are spelled.
-/

namespace TunnelBoard
namespace Counts

/-- The sum of the counters of the entries whose names pass a test. -/
def tallyWhere (wanted : Text → Bool) (entries : List (Value × Value)) : Nat :=
  ((entries.filter fun entry => wanted (nameOf entry.1)).map fun entry =>
    Counter.ofValue entry.2).sum

/-- The sum of the counters of the entries whose keys spell a name. -/
def tally (entries : List (Value × Value)) (name : Text) : Nat :=
  tallyWhere (fun other => other = name) entries

section

variable (wanted : Text → Bool)

theorem tallyWhere_cons (entry : Value × Value) (rest : List (Value × Value)) :
    tallyWhere wanted (entry :: rest) =
      (if wanted (nameOf entry.1) then Counter.ofValue entry.2 else 0) +
        tallyWhere wanted rest := by
  unfold tallyWhere
  by_cases h : wanted (nameOf entry.1)
  · rw [List.filter_cons, if_pos h, if_pos h, List.map_cons, List.sum_cons]
  · rw [List.filter_cons, if_neg h, if_neg h, Nat.zero_add]

/-- The order of the entries does not matter. -/
theorem tallyWhere_perm {entries others : List (Value × Value)} (h : entries.Perm others) :
    tallyWhere wanted entries = tallyWhere wanted others :=
  ((h.filter _).map _).sum_nat

theorem tallyWhere_congr {other : Text → Bool} {entries : List (Value × Value)}
    (h : ∀ entry ∈ entries, wanted (nameOf entry.1) = other (nameOf entry.1)) :
    tallyWhere wanted entries = tallyWhere other entries := by
  unfold tallyWhere
  rw [List.filter_congr h]

/-- An entry that passes one of two tests, but never both, is counted once. -/
theorem tallyWhere_or {other : Text → Bool}
    (h : ∀ name, wanted name = true → other name = false) (entries : List (Value × Value)) :
    tallyWhere (fun name => wanted name || other name) entries =
      tallyWhere wanted entries + tallyWhere other entries := by
  induction entries with
  | nil => rfl
  | cons entry rest ih =>
      simp only [tallyWhere_cons, ih]
      cases hwanted : wanted (nameOf entry.1) with
      | true =>
          rw [h _ hwanted]
          simp [Nat.add_assoc]
      | false =>
          simp [Nat.add_left_comm]

end

theorem tally_cons (entry : Value × Value) (rest : List (Value × Value)) (name : Text) :
    tally (entry :: rest) name =
      (if nameOf entry.1 = name then Counter.ofValue entry.2 else 0) + tally rest name := by
  unfold tally
  rw [tallyWhere_cons]
  simp only [decide_eq_true_eq]

/-- The tallies of different names add up to the sum over all entries that spell one. -/
theorem sum_tally {names : List Text} (h : names.Nodup) (entries : List (Value × Value)) :
    (names.map (tally entries)).sum = tallyWhere names.contains entries := by
  induction names with
  | nil =>
      have hnone : entries.filter (fun entry => ([] : List Text).contains (nameOf entry.1)) = [] :=
        List.filter_eq_nil_iff.mpr fun _ _ => Bool.false_ne_true
      rw [tallyWhere, hnone]
      rfl
  | cons name rest ih =>
      rcases List.nodup_cons.mp h with ⟨hnew, hrest⟩
      have hapart : ∀ other : Text, decide (other = name) = true → rest.contains other = false := by
        intro other heq
        rw [of_decide_eq_true heq]
        exact Bool.eq_false_iff.mpr fun hmem => hnew (List.contains_iff_mem.mp hmem)
      rw [List.map_cons, List.sum_cons, ih hrest, tally, ← tallyWhere_or _ hapart]
      apply tallyWhere_congr
      intro entry _
      rw [List.contains_cons, Bool.beq_eq_decide_eq]

/-!
# What counts hold

Adding an entry adds its counter to its name; adding all entries of a mapping adds up
the tally of each name.
-/

theorem get_addEntry (counts : Counts) (entry : Value × Value) {name : Text} (hne : name ≠ []) :
    (counts.addEntry entry).get name =
      counts.get name + if nameOf entry.1 = name then Counter.ofValue entry.2 else 0 := by
  unfold addEntry
  by_cases hblank : (nameOf entry.1).isEmpty
  · have hother : nameOf entry.1 ≠ name := by
      intro heq
      rw [heq, List.isEmpty_iff] at hblank
      exact hne hblank
    rw [if_pos hblank, if_neg hother, Nat.add_zero]
  · rw [if_neg hblank, get_add]
    simp only [eq_comm]

theorem get_foldl_addEntry (counts : Counts) (entries : List (Value × Value)) {name : Text}
    (hne : name ≠ []) :
    (entries.foldl addEntry counts).get name = counts.get name + tally entries name := by
  induction entries generalizing counts with
  | nil => rfl
  | cons entry rest ih =>
      rw [List.foldl_cons, ih, get_addEntry counts entry hne, tally_cons, Nat.add_assoc]

theorem get_ofEntries (entries : List (Value × Value)) {name : Text} (hne : name ≠ []) :
    (ofEntries entries).get name = tally entries name := by
  rw [ofEntries, get_foldl_addEntry [] entries hne, get_nil, Nat.zero_add]

/-!
# Which names counts have
-/

theorem mem_names_add (counts : Counts) (name other : Text) (n : Nat) :
    other ∈ (counts.add name n).map Prod.fst ↔ other ∈ counts.map Prod.fst ∨ other = name := by
  rw [names_add, List.mem_append]
  by_cases hknown : (counts.map Prod.fst).contains name
  · rw [if_pos hknown]
    have hmem := List.contains_iff_mem.mp hknown
    constructor
    · intro h
      exact Or.inl (h.resolve_right List.not_mem_nil)
    · intro h
      exact Or.inl (h.elim id fun heq => heq ▸ hmem)
  · rw [if_neg hknown, List.mem_singleton]

theorem mem_names_addEntry (counts : Counts) (entry : Value × Value) (name : Text) :
    name ∈ (counts.addEntry entry).map Prod.fst ↔
      name ∈ counts.map Prod.fst ∨ name ≠ [] ∧ nameOf entry.1 = name := by
  unfold addEntry
  by_cases hblank : (nameOf entry.1).isEmpty
  · rw [if_pos hblank, or_iff_left]
    intro h
    exact h.1 (h.2 ▸ List.isEmpty_iff.mp hblank)
  · rw [if_neg hblank, mem_names_add]
    apply or_congr_right
    constructor
    · intro heq
      exact ⟨fun hnil => hblank (List.isEmpty_iff.mpr (heq ▸ hnil)), heq.symm⟩
    · intro h
      exact h.2.symm

theorem mem_names_foldl_addEntry (counts : Counts) (entries : List (Value × Value))
    (name : Text) :
    name ∈ (entries.foldl addEntry counts).map Prod.fst ↔
      name ∈ counts.map Prod.fst ∨ name ≠ [] ∧ ∃ entry ∈ entries, nameOf entry.1 = name := by
  induction entries generalizing counts with
  | nil => simp
  | cons entry rest ih =>
      simp only [List.foldl_cons, ih, mem_names_addEntry, List.mem_cons, exists_eq_or_imp, or_assoc,
        and_or_left]

/-- The names are the texts that keys spell; a blank key spells none. -/
theorem mem_names_ofEntries (entries : List (Value × Value)) (name : Text) :
    name ∈ (ofEntries entries).map Prod.fst ↔
      name ≠ [] ∧ ∃ entry ∈ entries, nameOf entry.1 = name := by
  rw [ofEntries, mem_names_foldl_addEntry]
  exact or_iff_right List.not_mem_nil

end Counts
end TunnelBoard
