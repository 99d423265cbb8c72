import TunnelBoard.Text.Basic

/-!
# Splitting and joining

Cutting a text at a separator is the splitting of lists, so joining parts without
separators and cutting them again gives the parts back.
-/

namespace TunnelBoard
namespace Text

theorem splitOn_eq_splitOn (separator : CodePoint) (t : Text) :
    splitOn separator t = List.splitOn separator t := by
  induction t with
  | nil => rfl
  | cons c rest ih =>
      rw [splitOn, List.splitOn_cons_eq_if_modifyHead, ih]
      by_cases hc : c = separator
      · rw [if_pos hc, if_pos (beq_iff_eq.mpr hc)]
      · rw [if_neg hc, if_neg (by simpa using hc)]
        cases hrest : List.splitOn separator rest with
        | nil => exact absurd hrest (List.splitOn_ne_nil _ _)
        | cons part parts => rfl

theorem not_mem_of_mem_splitOn {separator : CodePoint} {t part : Text}
    (h : part ∈ splitOn separator t) : separator ∉ part := by
  induction t generalizing part with
  | nil =>
      rw [splitOn, List.mem_singleton] at h
      rw [h]
      exact List.not_mem_nil
  | cons c rest ih =>
      rw [splitOn] at h
      split at h
      · rcases List.mem_cons.mp h with h | h
        · rw [h]
          exact List.not_mem_nil
        · exact ih h
      · rename_i hc
        cases hrest : splitOn separator rest with
        | nil =>
            rw [hrest, List.mem_singleton] at h
            rw [h, List.mem_singleton]
            exact fun heq => hc heq.symm
        | cons first parts =>
            rw [hrest] at h ih
            rcases List.mem_cons.mp h with h | h
            · rw [h, List.mem_cons, not_or]
              exact ⟨fun heq => hc heq.symm, ih List.mem_cons_self⟩
            · exact ih (List.mem_cons_of_mem _ h)

theorem splitOn_join {separator : CodePoint} {parts : List Text} (hne : parts ≠ [])
    (h : ∀ part ∈ parts, separator ∉ part) :
    splitOn separator (join [separator] parts) = parts := by
  rw [splitOn_eq_splitOn]
  exact List.splitOn_intercalate separator h hne

/-!
# Texts without the separator

A text without the separator is a part, or the beginning of one.
-/

theorem splitOn_eq_cons (separator : CodePoint) (t : Text) :
    ∃ first parts, splitOn separator t = first :: parts := by
  rw [splitOn_eq_splitOn]
  exact List.exists_cons_of_ne_nil (List.splitOn_ne_nil separator t)

theorem splitOn_cons_self (separator : CodePoint) (t : Text) :
    splitOn separator (separator :: t) = [] :: splitOn separator t := by
  rw [splitOn, if_pos rfl]

theorem splitOn_append {separator : CodePoint} {s : Text} (h : separator ∉ s) {t first : Text}
    {parts : List Text} (ht : splitOn separator t = first :: parts) :
    splitOn separator (s ++ t) = (s ++ first) :: parts := by
  induction s with
  | nil => exact ht
  | cons c rest ih =>
      rw [List.mem_cons, not_or] at h
      rw [List.cons_append, splitOn, if_neg fun heq => h.1 heq.symm, ih h.2]
      rfl

theorem cut?_append {separator : CodePoint} {s : Text} (h : separator ∉ s) (t : Text) :
    cut? separator (s ++ separator :: t) = some (s, t) := by
  induction s with
  | nil => rw [List.nil_append, cut?, if_pos rfl]
  | cons c rest ih =>
      rw [List.mem_cons, not_or] at h
      rw [List.cons_append, cut?, if_neg fun heq => h.1 heq.symm, ih h.2]
      rfl

theorem cutLast?_append {separator : CodePoint} {t : Text} (h : separator ∉ t) (s : Text) :
    cutLast? separator (s ++ separator :: t) = some (s, t) := by
  have hreverse : (s ++ separator :: t).reverse = t.reverse ++ separator :: s.reverse := by
    rw [List.reverse_append, List.reverse_cons, List.append_assoc]
    rfl
  rw [cutLast?, hreverse, cut?_append (by rwa [List.mem_reverse])]
  simp only [Option.map_some, List.reverse_reverse]

/-!
# Look-ups
-/

/-- Entries of other names keep their order, so what is found first stays the same. -/
theorem lookup_filter_of_ne {α : Type} (entries : List (Text × α)) {name other : Text}
    (h : other ≠ name) :
    (entries.filter fun entry => entry.1 ≠ name).lookup other = entries.lookup other := by
  induction entries with
  | nil => rfl
  | cons entry rest ih =>
      rw [List.lookup_cons]
      by_cases hknown : entry.1 = name
      · have hother : (other == entry.1) = false := by
          rw [hknown]
          exact beq_false_of_ne h
        rw [List.filter_cons_of_neg (by simpa using hknown), ih, hother]
      · rw [List.filter_cons_of_pos (by simpa using hknown), List.lookup_cons, ih]

/-!
# Dropped ends
-/

theorem dropWhileEnd_eq_self {p : CodePoint → Bool} {t : Text}
    (h : ∀ c ∈ t.getLast?, p c = false) : dropWhileEnd p t = t := by
  rw [dropWhileEnd]
  cases hreverse : t.reverse with
  | nil =>
      rw [List.reverse_eq_nil_iff] at hreverse
      simp [hreverse]
  | cons c rest =>
      have hlast : p c = false := by
        apply h
        rw [← List.head?_reverse, hreverse]
        rfl
      rw [List.dropWhile_cons_of_neg (by simp [hlast]), ← hreverse, List.reverse_reverse]

theorem getLast?_dropWhileEnd (p : CodePoint → Bool) (t : Text) :
    ∀ c ∈ (dropWhileEnd p t).getLast?, p c = false := by
  intro c hc
  rw [dropWhileEnd, List.getLast?_reverse] at hc
  have hhead := List.head?_dropWhile_not p t.reverse
  rw [Option.mem_def.mp hc] at hhead
  simpa using hhead

theorem exists_eq_dropWhileEnd_append (p : CodePoint → Bool) (t : Text) :
    ∃ ending, t = dropWhileEnd p t ++ ending ∧ ∀ c ∈ ending, p c = true := by
  refine ⟨(t.reverse.takeWhile p).reverse, ?_, ?_⟩
  · rw [dropWhileEnd, ← List.reverse_append, List.takeWhile_append_dropWhile, List.reverse_reverse]
  · intro c hc
    exact List.all_eq_true.mp List.all_takeWhile c (List.mem_reverse.mp hc)

end Text
end TunnelBoard
