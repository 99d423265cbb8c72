import TunnelBoard.Proofs.Text.Padding
import TunnelBoard.Site.Environment

/-!
# Lists in the environment

A list in the environment is its parts with commas between them.  Blanks around a part
and segments without any part make no difference, so the texts that are read as a list
are exactly those that are spread out from it; and what is read is spread out from
itself.
-/

namespace TunnelBoard
namespace Environment

/-- A text that a list in the environment can have as a part. -/
structure IsPart (part : Text) : Prop where
  nonempty : part ≠ []
  isTrimmed : part.IsTrimmed
  noComma : (',' : CodePoint) ∉ part

/-- The segments between the commas of a text: each holds the next part, or none at all. -/
inductive Spread : List Text → List Text → Prop where
  | nil : Spread [] []
  | blank {parts segments : List Text} {segment : Text}
      (isBlank : ∀ c ∈ segment, c.isBlank = true) (rest : Spread parts segments) :
      Spread parts (segment :: segments)
  | part {parts segments : List Text} {before part after : Text}
      (isBefore : ∀ c ∈ before, c.isBlank = true) (isAfter : ∀ c ∈ after, c.isBlank = true)
      (rest : Spread parts segments) :
      Spread (part :: parts) ((before ++ (part ++ after)) :: segments)

/-- The parts that some segments hold. -/
def partsOf (segments : List Text) : List Text :=
  (segments.map Text.trim).filter fun part => !part.isEmpty

/-!
# One segment

A segment is blank or holds its trimmed text as a part.
-/

theorem partsOf_cons (segment : Text) (segments : List Text) :
    partsOf (segment :: segments) =
      if segment.trim = [] then partsOf segments else segment.trim :: partsOf segments := by
  unfold partsOf
  rw [List.map_cons, List.filter_cons]
  by_cases h : segment.trim = []
  · rw [if_pos h, h, if_neg (by decide)]
  · rw [if_neg h, if_pos (by simpa using h)]

theorem not_mem_of_isBlank {t : Text} (h : ∀ c ∈ t, c.isBlank = true) : (',' : CodePoint) ∉ t := by
  intro hcomma
  exact absurd (h _ hcomma) (by decide)

theorem isPart_trim {segment : Text} (hcomma : (',' : CodePoint) ∉ segment)
    (hne : segment.trim ≠ []) : IsPart segment.trim := by
  refine ⟨hne, Text.isTrimmed_trim segment, ?_⟩
  rcases Text.exists_eq_padded_trim segment with ⟨before, after, hsegment, _, _⟩
  intro hmem
  apply hcomma
  rw [hsegment]
  exact List.mem_append_right _ (List.mem_append_left _ hmem)

/-!
# All segments
-/

/-- Segments are spread out from the parts they hold. -/
theorem spread_partsOf (segments : List Text) : Spread (partsOf segments) segments := by
  induction segments with
  | nil => exact .nil
  | cons segment rest ih =>
      rw [partsOf_cons]
      by_cases hblank : segment.trim = []
      · rw [if_pos hblank]
        exact .blank ((Text.trim_eq_nil_iff segment).mp hblank) ih
      · rcases Text.exists_eq_padded_trim segment with ⟨before, after, hsegment, hbefore, hafter⟩
        have hspread : Spread (segment.trim :: partsOf rest)
            ((before ++ (segment.trim ++ after)) :: rest) := .part hbefore hafter ih
        rw [← hsegment] at hspread
        rw [if_neg hblank]
        exact hspread

theorem partsOf_of_spread {parts segments : List Text} (h : Spread parts segments)
    (hparts : ∀ part ∈ parts, IsPart part) : partsOf segments = parts := by
  induction h with
  | nil => rfl
  | blank isBlank _ ih =>
      rw [partsOf_cons, if_pos ((Text.trim_eq_nil_iff _).mpr isBlank), ih hparts]
  | @part parts segments before part after isBefore isAfter _ ih =>
      rcases List.forall_mem_cons.mp hparts with ⟨hpart, hrest⟩
      rw [partsOf_cons, Text.trim_padded isBefore isAfter, Text.trim_eq_self hpart.isTrimmed,
        if_neg hpart.nonempty, ih hrest]

theorem noComma_of_spread {parts segments : List Text} (h : Spread parts segments)
    (hparts : ∀ part ∈ parts, IsPart part) :
    ∀ segment ∈ segments, (',' : CodePoint) ∉ segment := by
  induction h with
  | nil => exact nofun
  | blank isBlank _ ih =>
      exact List.forall_mem_cons.mpr ⟨not_mem_of_isBlank isBlank, ih hparts⟩
  | part isBefore isAfter _ ih =>
      rcases List.forall_mem_cons.mp hparts with ⟨hpart, hrest⟩
      refine List.forall_mem_cons.mpr ⟨?_, ih hrest⟩
      simp only [List.mem_append, not_or]
      exact ⟨not_mem_of_isBlank isBefore, hpart.noComma, not_mem_of_isBlank isAfter⟩

theorem isPart_of_mem_partsOf {segments : List Text}
    (h : ∀ segment ∈ segments, (',' : CodePoint) ∉ segment) :
    ∀ part ∈ partsOf segments, IsPart part := by
  intro part hpart
  rcases List.mem_filter.mp hpart with ⟨hmem, hne⟩
  rcases List.mem_map.mp hmem with ⟨segment, hsegment, htrim⟩
  subst htrim
  exact isPart_trim (h segment hsegment) (by simpa using hne)

/-- Parts that are joined as they are have blank space nowhere. -/
theorem spread_self (parts : List Text) : Spread parts parts := by
  induction parts with
  | nil => exact .nil
  | cons part rest ih =>
      have hspread : Spread (part :: rest) (([] ++ (part ++ [])) :: rest) := .part nofun nofun ih
      rwa [List.nil_append, List.append_nil] at hspread

/-!
# Texts
-/

theorem parts_eq_partsOf (t : Text) : parts t = partsOf (t.splitOn ',') := rfl

theorem parts_join {segments : List Text}
    (h : ∀ segment ∈ segments, (',' : CodePoint) ∉ segment) :
    parts (Text.join [','] segments) = partsOf segments := by
  rw [parts_eq_partsOf]
  cases segments with
  | nil => rfl
  | cons segment rest => rw [Text.splitOn_join (List.cons_ne_nil segment rest) h]

/-- The texts that are read as some parts are the joined segments spread out from them. -/
theorem parts_eq_iff (t : Text) (texts : List Text) :
    parts t = texts ↔
      (∀ part ∈ texts, IsPart part) ∧
        ∃ segments, Spread texts segments ∧ t = Text.join [','] segments := by
  constructor
  · intro h
    subst h
    refine ⟨isPart_of_mem_partsOf fun _ => Text.not_mem_of_mem_splitOn, t.splitOn ',',
      spread_partsOf _, ?_⟩
    rw [Text.splitOn_eq_splitOn]
    exact (List.intercalate_splitOn (',' : CodePoint)).symm
  · intro h
    rcases h with ⟨hparts, segments, hspread, ht⟩
    rw [ht, parts_join (noComma_of_spread hspread hparts), partsOf_of_spread hspread hparts]

/--
Reading a list inverts joining it, up to noise: parts that are joined with commas, each
with any blanks around it and with any number of blank segments anywhere, are read back
in order.  Conversely, whatever a variable is set to, only parts are read from it, the
text is spread out from them, and joining them and reading again gives them back.
-/
theorem list_inverts_join (default : List Text) :
    (∀ texts segments, (∀ part ∈ texts, IsPart part) → Spread texts segments →
        list default (some (Text.join [','] segments)) = texts) ∧
      ∀ t : Text,
        (∀ part ∈ list default (some t), IsPart part) ∧
          (∃ segments, Spread (list default (some t)) segments ∧ t = Text.join [','] segments) ∧
          list default (some (Text.join [','] (list default (some t)))) =
            list default (some t) := by
  constructor
  · intro texts segments hparts hspread
    exact (parts_eq_iff _ texts).mpr ⟨hparts, segments, hspread, rfl⟩
  · intro t
    rcases (parts_eq_iff t (parts t)).mp rfl with ⟨hparts, hsegments⟩
    refine ⟨hparts, hsegments, ?_⟩
    exact (parts_eq_iff _ (parts t)).mpr ⟨hparts, parts t, spread_self _, rfl⟩

/-- Two hosts, with blanks of several scripts around them and blank segments everywhere. -/
theorem list_of_two_hosts :
    let hosts : List Text := ["frps.example", "[::1]"]
    let segments : List Text := ["", "\t frps.example\u3000", "\u2028", "[::1]", ""]
    (∀ host ∈ hosts, IsPart host) ∧ Spread hosts segments ∧
      Text.join [','] segments = ",\t frps.example\u3000,\u2028,[::1]," ∧
      list [] (some (Text.join [','] segments)) = hosts := by
  intro hosts segments
  have hname : IsPart "frps.example" := by
    refine ⟨by decide, ⟨?_, ?_⟩, by decide⟩ <;> intro c hc <;> cases hc <;> decide
  have hnumber : IsPart "[::1]" := by
    refine ⟨by decide, ⟨?_, ?_⟩, by decide⟩ <;> intro c hc <;> cases hc <;> decide
  have hparts : ∀ host ∈ hosts, IsPart host :=
    List.forall_mem_cons.mpr ⟨hname, List.forall_mem_singleton.mpr hnumber⟩
  have hspread : Spread hosts segments := by
    have hbefore : ("\t " : Text).all CodePoint.isBlank = true := by decide
    have hafter : ("\u3000" : Text).all CodePoint.isBlank = true := by decide
    have hline : ("\u2028" : Text).all CodePoint.isBlank = true := by decide
    refine .blank nofun ?_
    refine .part (List.all_eq_true.mp hbefore) (List.all_eq_true.mp hafter) ?_
    refine .blank (List.all_eq_true.mp hline) ?_
    have hempty : ∀ c ∈ ([] : Text), c.isBlank = true := List.forall_mem_nil _
    have hlast : Spread [("[::1]" : Text)] [[] ++ (("[::1]" : Text) ++ []), []] :=
      .part hempty hempty (.blank hempty .nil)
    exact hlast
  exact ⟨hparts, hspread, by decide, (list_inverts_join []).1 hosts segments hparts hspread⟩

end Environment
end TunnelBoard
