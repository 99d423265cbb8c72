import TunnelBoard.Proofs.Text.SmallLetters
import TunnelBoard.Snapshot.Counts

/-!
# Merged counts

Whatever the entries of a mapping are, their counts are merged: a name occurs
once, is not empty, and is spelled as names are kept.  Reading merged counts
again therefore merges nothing; it only takes each count for a counter, so a sum
that left the range of counters becomes zero.
-/

namespace TunnelBoard

namespace Counter

theorem ofInt_natCast (n : Nat) : ofInt n = if n ≤ limit then n else 0 := by
  by_cases h : n ≤ limit
  · have hrange : ((n : Int) ≤ (limit : Int)) := Int.ofNat_le.mpr h
    simp [ofInt, h, hrange]
  · have hrange : ¬ ((n : Int) ≤ (limit : Int)) := fun hle => h (Int.ofNat_le.mp hle)
    simp [ofInt, h, hrange]

theorem ofInt_natCast_eq_self_iff (n : Nat) : ofInt n = n ↔ n ≤ limit := by
  rw [ofInt_natCast]
  split
  · simp [*]
  · constructor
    · intro hzero
      omega
    · intro h
      contradiction

theorem ofInt_le (n : Int) : ofInt n ≤ limit := by
  unfold ofInt
  split
  · rename_i h
    simp only [Bool.and_eq_true, decide_eq_true_eq] at h
    omega
  · exact Nat.zero_le _

end Counter

namespace Counts

/-!
# Names
-/

/-- A name as names are kept: trimmed, in small letters and not empty. -/
def IsName (name : Text) : Prop := name ≠ [] ∧ nameOf (.text name) = name

theorem nameOf_text_nameOf (key : Value) : nameOf (.text (nameOf key)) = nameOf key := by
  have htrim : (nameOf key).trim = nameOf key :=
    Text.trim_eq_self (Text.isTrimmed_lower (Text.isTrimmed_trim key.plain))
  show (nameOf key).trim.lower = nameOf key
  rw [htrim]
  exact Text.lower_lower key.plain.trim

/-!
# Merging

Adding an entry keeps the counts merged, and so does adding all entries of a
mapping.
-/

/-- Each name occurs once and is spelled as names are kept. -/
structure IsMerged (counts : Counts) : Prop where
  nodup : (counts.map Prod.fst).Nodup
  isName : ∀ name ∈ counts.map Prod.fst, IsName name

theorem isMerged_nil : IsMerged [] where
  nodup := List.nodup_nil
  isName := by
    intro name hname
    cases hname

theorem IsMerged.add {counts : Counts} (h : counts.IsMerged) {name : Text} (hname : IsName name)
    (n : Nat) : (counts.add name n).IsMerged := by
  by_cases hknown : name ∈ counts.map Prod.fst
  · have hnames : (counts.add name n).map Prod.fst = counts.map Prod.fst := by
      rw [names_add, if_pos (List.contains_iff_mem.mpr hknown), List.append_nil]
    constructor
    · rw [hnames]
      exact h.nodup
    · rw [hnames]
      exact h.isName
  · have hnames : (counts.add name n).map Prod.fst = counts.map Prod.fst ++ [name] := by
      rw [names_add, if_neg (fun hcontains => hknown (List.contains_iff_mem.mp hcontains))]
    constructor
    · rw [hnames]
      apply List.nodup_append.mpr
      refine ⟨h.nodup, by simp, ?_⟩
      intro known hmem other hother heq
      rw [List.mem_singleton] at hother
      exact hknown (hother ▸ heq ▸ hmem)
    · rw [hnames]
      intro known hmem
      rcases List.mem_append.mp hmem with hmem | hmem
      · exact h.isName known hmem
      · rw [List.mem_singleton] at hmem
        rw [hmem]
        exact hname

theorem IsMerged.addEntry {counts : Counts} (h : counts.IsMerged) (entry : Value × Value) :
    (counts.addEntry entry).IsMerged := by
  unfold Counts.addEntry
  by_cases hblank : (nameOf entry.1).isEmpty
  · simpa [hblank] using h
  · have hname : IsName (nameOf entry.1) :=
      ⟨by simpa using hblank, nameOf_text_nameOf entry.1⟩
    simpa [hblank] using h.add hname (Counter.ofValue entry.2)

theorem isMerged_ofEntries (entries : List (Value × Value)) : (ofEntries entries).IsMerged := by
  have hrun : ∀ counts : Counts, counts.IsMerged → (entries.foldl addEntry counts).IsMerged := by
    induction entries with
    | nil =>
        intro counts h
        exact h
    | cons entry rest ih =>
        intro counts h
        exact ih (counts.addEntry entry) (h.addEntry entry)
  exact hrun [] isMerged_nil

theorem isMerged_ofValue (v : Value) : (ofValue v).IsMerged := by
  cases v with
  | map entries => exact isMerged_ofEntries entries
  | _ => exact isMerged_nil

/-!
# Reading merged counts again
-/

/-- The counts taken for counters: those that are out of range are zero. -/
def inRange (counts : Counts) : Counts := counts.map fun (name, n) => (name, Counter.ofInt n)

theorem add_of_not_mem {counts : Counts} {name : Text} (n : Nat)
    (h : name ∉ counts.map Prod.fst) : counts.add name n = counts ++ [(name, n)] := by
  induction counts with
  | nil => rfl
  | cons entry rest ih =>
      rcases entry with ⟨known, m⟩
      simp only [List.map_cons, List.mem_cons, not_or] at h
      rw [add, if_neg fun heq => h.1 heq.symm, ih h.2]
      rfl

theorem ofValue_toValue {counts : Counts} (h : counts.IsMerged) :
    ofValue counts.toValue = counts.inRange := by
  have hrun : ∀ known : Counts,
      (∀ name ∈ counts.map Prod.fst, name ∉ known.map Prod.fst) →
        (counts.map fun (name, n) => ((.text name, .int n) : Value × Value)).foldl addEntry known =
          known ++ counts.inRange := by
    induction counts with
    | nil =>
        intro known _
        exact (List.append_nil known).symm
    | cons entry rest ih =>
        rcases entry with ⟨name, n⟩
        intro known hnew
        have hnodup := List.nodup_cons.mp h.nodup
        rcases h.isName name List.mem_cons_self with ⟨hne, hname⟩
        have hrest : IsMerged rest :=
          ⟨hnodup.2, fun other hother => h.isName other (List.mem_cons_of_mem _ hother)⟩
        have hstep : known.addEntry (.text name, .int n) = known ++ [(name, Counter.ofInt n)] := by
          rw [addEntry, hname, if_neg (by simpa using hne)]
          exact add_of_not_mem _ (hnew name List.mem_cons_self)
        rw [List.map_cons, List.foldl_cons, hstep, ih hrest]
        · simp [inRange]
        · intro other hother hmem
          rw [List.map_append, List.mem_append] at hmem
          rcases hmem with hmem | hmem
          · exact hnew other (List.mem_cons_of_mem _ hother) hmem
          · rw [List.map_singleton, List.mem_singleton] at hmem
            exact hnodup.1 (hmem ▸ hother)
  exact hrun [] (fun _ _ hmem => nomatch hmem)

/-- Nothing is out of range if and only if the counts are counters already. -/
theorem inRange_eq_self_iff (counts : Counts) :
    counts.inRange = counts ↔ ∀ entry ∈ counts, entry.2 ≤ Counter.limit := by
  induction counts with
  | nil => simp [inRange]
  | cons entry rest ih =>
      rcases entry with ⟨name, n⟩
      rw [inRange, List.map_cons, ← inRange, List.cons.injEq, Prod.mk.injEq, ih,
        Counter.ofInt_natCast_eq_self_iff, List.forall_mem_cons]
      simp

theorem get_inRange (counts : Counts) (name : Text) :
    counts.inRange.get name = Counter.ofInt (counts.get name) := by
  induction counts with
  | nil => rfl
  | cons entry rest ih =>
      rcases entry with ⟨known, n⟩
      rw [inRange, List.map_cons, ← inRange, get_cons, get_cons, ih]
      split <;> rfl

end Counts
end TunnelBoard
