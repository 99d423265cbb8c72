import Mathlib.Data.List.TakeWhile
import TunnelBoard.Proofs.Text.Splitting
import TunnelBoard.Text.Blank
import TunnelBoard.Text.Lower

/-!
# Texts in small letters

Lower-casing a text twice is lower-casing it once, and a trimmed text stays
trimmed.  Both follow from the table of case pairs: no code point that a run
leads to is the start of another pair, and none of them is blank.
-/

namespace TunnelBoard

namespace Text
namespace CaseRun

/-!
# Runs that do not meet

What a run leads to is compared with the numbers that another run covers by
their ends and by their remainders, without going through the numbers.
-/

/-- A check that no number a run leads to is covered by another run. -/
def avoids (run other : CaseRun) : Bool :=
  run.target + (run.last - run.first) < other.first || other.last < run.target
    || ((run.first = run.last || run.step % other.step = 0)
        && run.target % other.step ≠ other.first % other.step)

theorem covers_iff (run : CaseRun) (n : Nat) :
    run.covers n = true ↔
      run.first ≤ n ∧ n ≤ run.last ∧ (n - run.first) % run.step = 0 := by
  simp [covers, and_assoc]

theorem covers_of_avoids {run other : CaseRun} {n : Nat}
    (havoids : run.avoids other = true) (hcovers : run.covers n = true) :
    other.covers (run.target + (n - run.first)) = false := by
  rcases (covers_iff run n).mp hcovers with ⟨hfirst, hlast, hstep⟩
  apply Bool.eq_false_iff.mpr
  intro hother
  rcases (covers_iff other _).mp hother with ⟨hlow, hhigh, hremainder⟩
  simp only [avoids, Bool.or_eq_true, Bool.and_eq_true, decide_eq_true_eq] at havoids
  rcases havoids with (hbelow | habove) | ⟨hsteps, hdiffer⟩
  · omega
  · omega
  · apply hdiffer
    have hoffset : (n - run.first) % other.step = 0 := by
      cases hsteps with
      | inl hsingle =>
          have hzero : n - run.first = 0 := by omega
          rw [hzero, Nat.zero_mod]
      | inr hmultiple =>
          exact Nat.mod_eq_zero_of_dvd
            (Nat.dvd_trans (Nat.dvd_of_mod_eq_zero hmultiple) (Nat.dvd_of_mod_eq_zero hstep))
    have htarget : (run.target + (n - run.first)) % other.step = run.target % other.step := by
      rw [Nat.add_mod, hoffset, Nat.add_zero, Nat.mod_mod]
    have hsplit : run.target + (n - run.first) =
        other.first + (run.target + (n - run.first) - other.first) := by omega
    rw [← htarget, hsplit, Nat.add_mod, hremainder, Nat.add_zero, Nat.mod_mod]

end CaseRun

theorem Ranges.exists_of_contains {ranges : Ranges} {n : Nat}
    (h : ranges.contains n = true) :
    ∃ range ∈ ranges, range.1 ≤ n ∧ n ≤ range.2 := by
  induction ranges with
  | nil => cases h
  | cons range rest ih =>
      rcases range with ⟨first, last⟩
      by_cases hlast : n ≤ last
      · refine ⟨(first, last), List.mem_cons_self, ?_, hlast⟩
        simpa [contains, hlast] using h
      · rcases ih (by simpa [contains, hlast] using h) with ⟨range, hmem, hrange⟩
        exact ⟨range, List.mem_cons_of_mem _ hmem, hrange⟩

/-- What a check of a table finds of all its numbers holds of each code point it contains. -/
theorem Ranges.of_contains {ranges : Ranges} (p : CodePoint → Bool)
    (hcheck : (ranges.all fun range => (List.range' range.1 (range.2 + 1 - range.1)).all fun n =>
      p (Fin.ofNat 0x110000 n)) = true)
    {c : CodePoint} (h : ranges.contains c.val = true) : p c = true := by
  rcases exists_of_contains h with ⟨range, hmem, hfirst, hlast⟩
  have hc := List.all_eq_true.mp (List.all_eq_true.mp hcheck range hmem) c.val
    (List.mem_range'_1.mpr ⟨hfirst, by omega⟩)
  have hself : (Fin.ofNat 0x110000 c.val : CodePoint) = c := Fin.ext (Nat.mod_eq_of_lt c.isLt)
  rwa [hself] at hc

/-- The numbers that no capital leads to: those of capitals and those of blanks. -/
def unreached : List CaseRun :=
  ⟨0x130, 0x130, 1, 0x130⟩ :: lowerRuns ++
    blankRanges.map fun (first, last) => ⟨first, last, 1, first⟩

/-- A check of the table of case pairs. -/
theorem lowerRuns_avoid :
    (lowerRuns.all fun run =>
      run.target + (run.last - run.first) < 0x110000 && unreached.all run.avoids) = true := by
  decide +kernel

end Text

namespace CodePoint

/-!
# Small code points
-/

/-- A code point that lower-casing does not change, wherever it stands. -/
def IsSmall (c : CodePoint) : Prop := c ≠ 0x3A3 ∧ c.lower = [c]

instance (c : CodePoint) : Decidable c.IsSmall :=
  inferInstanceAs (Decidable (c ≠ 0x3A3 ∧ c.lower = [c]))

theorem toLower_of_not_covered {c : CodePoint}
    (h : ∀ run ∈ Text.lowerRuns, run.covers c.val = false) : c.toLower = c := by
  have hnone : Text.lowerRuns.find? (fun run => run.covers c.val) = none := by
    apply List.find?_eq_none.mpr
    intro run hmem
    simp [h run hmem]
  simp [toLower, Text.CaseRun.apply, hnone, ofNat?]

theorem isSmall_of_not_covered {c : CodePoint} (hdotted : c ≠ 0x130)
    (h : ∀ run ∈ Text.lowerRuns, run.covers c.val = false) : c.IsSmall := by
  constructor
  · intro hsigma
    subst hsigma
    have hmem : (⟨0x3A3, 0x3AB, 1, 0x3C3⟩ : Text.CaseRun) ∈ Text.lowerRuns := by
      decide
    exact Bool.false_ne_true ((h _ hmem).symm.trans (by decide))
  · rw [lower, if_neg hdotted, toLower_of_not_covered h]

theorem isBlank_of_not_covered {c : CodePoint}
    (h : ∀ run ∈ Text.unreached, run.covers c.val = false) : c.isBlank = false := by
  apply Bool.eq_false_iff.mpr
  intro hblank
  rcases Text.Ranges.exists_of_contains hblank with ⟨⟨first, last⟩, hmem, hfirst, hlast⟩
  have hrun : (⟨first, last, 1, first⟩ : Text.CaseRun) ∈ Text.unreached := by
    simp only [Text.unreached, List.mem_append, List.mem_map]
    exact Or.inr ⟨(first, last), hmem, rfl⟩
  have hcovers := (Text.CaseRun.covers_iff ⟨first, last, 1, first⟩ c.val).mpr
    ⟨hfirst, hlast, Nat.mod_one _⟩
  exact Bool.false_ne_true ((h _ hrun).symm.trans hcovers)

/-- A code point either is left as it is, or leads to one that is neither a capital nor blank. -/
theorem toLower_cases (c : CodePoint) :
    (c.toLower = c ∧ ∀ run ∈ Text.lowerRuns, run.covers c.val = false) ∨
      ∀ run ∈ Text.unreached, run.covers c.toLower.val = false := by
  cases hfind : Text.lowerRuns.find? (fun run => run.covers c.val) with
  | none =>
      apply Or.inl
      have h : ∀ run ∈ Text.lowerRuns, run.covers c.val = false := by
        intro run hmem
        simpa using List.find?_eq_none.mp hfind run hmem
      exact ⟨toLower_of_not_covered h, h⟩
  | some run =>
      apply Or.inr
      have hcovers : run.covers c.val = true := by
        simpa using List.find?_some hfind
      have hcheck := List.all_eq_true.mp Text.lowerRuns_avoid run (List.mem_of_find?_eq_some hfind)
      simp only [Bool.and_eq_true, decide_eq_true_eq] at hcheck
      rcases (Text.CaseRun.covers_iff run c.val).mp hcovers with ⟨_, hlast, _⟩
      have hbound : run.target + (c.val - run.first) < 0x110000 := by omega
      have hvalue : c.toLower.val = run.target + (c.val - run.first) := by
        simp [toLower, Text.CaseRun.apply, hfind, ofNat?, hbound]
      intro other hmem
      rw [hvalue]
      exact Text.CaseRun.covers_of_avoids (List.all_eq_true.mp hcheck.2 other hmem) hcovers

theorem isSmall_of_mem_lower {c d : CodePoint} (h : d ∈ c.lower) : d.IsSmall := by
  by_cases hdotted : c = 0x130
  · subst hdotted
    have hd : d = 0x69 ∨ d = 0x307 := by
      simpa [lower] using h
    rcases hd with hd | hd
    · subst hd
      decide
    · subst hd
      decide
  · have hd : d = c.toLower := by
      simpa [lower, hdotted] using h
    rw [hd]
    rcases toLower_cases c with ⟨hsame, hcovers⟩ | hcovers
    · rw [hsame]
      exact isSmall_of_not_covered hdotted hcovers
    · apply isSmall_of_not_covered
      · intro hsame
        have hself := hcovers ⟨0x130, 0x130, 1, 0x130⟩ List.mem_cons_self
        rw [hsame] at hself
        exact Bool.false_ne_true (hself.symm.trans (by decide))
      · intro run hmem
        apply hcovers
        simp [Text.unreached, hmem]

theorem isBlank_of_mem_lower {c d : CodePoint} (hc : c.isBlank = false) (h : d ∈ c.lower) :
    d.isBlank = false := by
  by_cases hdotted : c = 0x130
  · subst hdotted
    have hd : d = 0x69 ∨ d = 0x307 := by
      simpa [lower] using h
    rcases hd with hd | hd
    · subst hd
      decide
    · subst hd
      decide
  · have hd : d = c.toLower := by
      simpa [lower, hdotted] using h
    rw [hd]
    rcases toLower_cases c with ⟨hsame, _⟩ | hcovers
    · rw [hsame]
      exact hc
    · exact isBlank_of_not_covered hcovers

theorem lower_ne_nil (c : CodePoint) : c.lower ≠ [] := by
  unfold lower
  split <;> simp

end CodePoint

namespace Text

/-!
# Lower-casing twice
-/

theorem isSmall_of_mem_lowerAfter {cased : Bool} {t : Text} {d : CodePoint}
    (h : d ∈ lowerAfter cased t) : d.IsSmall := by
  induction t generalizing cased with
  | nil => cases h
  | cons c rest ih =>
      rw [lowerAfter] at h
      rcases List.mem_append.mp h with hsmall | hrest
      · by_cases hsigma : c = 0x3A3
        · rw [if_pos hsigma, List.mem_singleton] at hsmall
          subst hsmall
          split <;> decide
        · rw [if_neg hsigma] at hsmall
          exact CodePoint.isSmall_of_mem_lower hsmall
      · exact ih hrest

theorem lowerAfter_eq_self (cased : Bool) {t : Text} (h : ∀ c ∈ t, c.IsSmall) :
    lowerAfter cased t = t := by
  induction t generalizing cased with
  | nil => rfl
  | cons c rest ih =>
      rcases h c List.mem_cons_self with ⟨hsigma, hlower⟩
      rw [lowerAfter, if_neg hsigma, hlower, ih _ fun d hd => h d (List.mem_cons_of_mem c hd)]
      rfl

theorem lower_lower (t : Text) : t.lower.lower = t.lower :=
  lowerAfter_eq_self false fun _ hd => isSmall_of_mem_lowerAfter hd

/-!
# Trimmed texts
-/

theorem trim_eq_self {t : Text} (h : t.IsTrimmed) : t.trim = t := by
  have hstart : t.dropWhile CodePoint.isBlank = t := by
    cases t with
    | nil => rfl
    | cons c rest =>
        have hc : c.isBlank = false := h.1 c rfl
        exact List.dropWhile_cons_of_neg (by simp [hc])
  rw [trim, hstart]
  exact dropWhileEnd_eq_self h.2

theorem isTrimmed_trim (t : Text) : t.trim.IsTrimmed := by
  refine ⟨?_, getLast?_dropWhileEnd CodePoint.isBlank (t.dropWhile CodePoint.isBlank)⟩
  intro c hc
  have hstart := List.head?_dropWhile_not CodePoint.isBlank t
  have hprefix : t.trim <+: t.dropWhile CodePoint.isBlank := by
    rw [trim, dropWhileEnd, ← List.reverse_suffix, List.reverse_reverse]
    exact List.dropWhile_suffix _
  rcases hprefix with ⟨suffix, happend⟩
  rw [← happend, List.head?_append, Option.mem_def.mp hc] at hstart
  simpa using hstart

theorem trim_trim (t : Text) : t.trim.trim = t.trim := trim_eq_self (isTrimmed_trim t)

theorem trim_padded {before after : Text} (hbefore : ∀ c ∈ before, c.isBlank = true)
    (hafter : ∀ c ∈ after, c.isBlank = true) (t : Text) :
    trim (before ++ (t ++ after)) = t.trim := by
  have hend : ∀ c ∈ after.reverse, c.isBlank = true :=
    fun c hc => hafter c (List.mem_reverse.mp hc)
  rw [trim, trim, List.dropWhile_append_of_pos hbefore, List.dropWhile_append]
  split
  · rename_i hblank
    rw [List.isEmpty_iff.mp hblank, List.dropWhile_eq_nil_iff.mpr hafter]
  · rw [dropWhileEnd, List.reverse_append, List.dropWhile_append_of_pos hend, ← dropWhileEnd]

theorem lowerAfter_append_singleton (cased : Bool) (t : Text) (c : CodePoint) :
    ∃ front before, lowerAfter cased (t ++ [c]) = front ++ lowerAfter before [c] := by
  induction t generalizing cased with
  | nil => exact ⟨[], cased, rfl⟩
  | cons d rest ih =>
      rcases ih (if d.isCaseIgnorable then cased else d.isCased) with ⟨front, before, h⟩
      rw [List.cons_append, lowerAfter, h, ← List.append_assoc]
      exact ⟨_, before, rfl⟩

/-- What lower-casing makes of the first code point of a text. -/
theorem lowerAfter_cons (cased : Bool) (c : CodePoint) (rest : Text) :
    ∃ small : Text, small ≠ [] ∧
      (c.isBlank = false → ∀ d ∈ small, d.isBlank = false) ∧
      lowerAfter cased (c :: rest) =
        small ++ lowerAfter (if c.isCaseIgnorable then cased else c.isCased) rest := by
  by_cases hsigma : c = 0x3A3
  · refine ⟨[if cased && !startsCased rest then 0x3C2 else 0x3C3], by simp, ?_,
      by rw [lowerAfter, if_pos hsigma]⟩
    intro _ d hd
    rw [List.mem_singleton] at hd
    subst hd
    split <;> decide
  · refine ⟨c.lower, CodePoint.lower_ne_nil c, ?_, by rw [lowerAfter, if_neg hsigma]⟩
    intro hc d hd
    exact CodePoint.isBlank_of_mem_lower hc hd

theorem isTrimmed_lower {t : Text} (h : t.IsTrimmed) : t.lower.IsTrimmed := by
  constructor
  · intro d hd
    cases t with
    | nil => cases hd
    | cons c rest =>
        rcases lowerAfter_cons false c rest with ⟨small, hne, hblank, heq⟩
        rw [lower, heq, List.head?_append] at hd
        rw [List.head?_eq_some_head hne, Option.some_or, Option.mem_some_iff] at hd
        subst hd
        exact hblank (h.1 c rfl) _ (List.head_mem hne)
  · intro d hd
    rcases List.eq_nil_or_concat t with ht | ⟨front, c, ht⟩
    · subst ht
      cases hd
    · subst ht
      have hc : c.isBlank = false := h.2 c (by simp)
      rcases lowerAfter_append_singleton false front c with ⟨start, before, hsplit⟩
      rcases lowerAfter_cons before c [] with ⟨small, hne, hblank, heq⟩
      rw [lower, List.concat_eq_append, hsplit, heq, lowerAfter, List.append_nil,
        List.getLast?_append, List.getLast?_eq_some_getLast hne, Option.some_or,
        Option.mem_some_iff] at hd
      subst hd
      exact hblank hc _ (List.getLast_mem hne)

end Text
end TunnelBoard
