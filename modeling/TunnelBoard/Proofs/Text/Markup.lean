import Mathlib.Data.List.Basic
import TunnelBoard.Proofs.Json.Quoting
import TunnelBoard.Proofs.Text.Splitting
import TunnelBoard.Text.Html

/-!
# Reading a page

A reader of a page sees tags and what stands between them, and takes references
for the texts they refer to.  An escaped text has no tags, and it is read as the
text itself.
-/

namespace TunnelBoard
namespace Html

/-!
# References

A reference is a name between an ampersand and a semicolon.  Readers know
different tables of names, but all of them know the five that markup needs.
-/

/-- The code points that are escaped, with the names of their references. -/
def references : List (CodePoint × Text) :=
  [('&', "amp"), ('<', "lt"), ('>', "gt"), ('"', "quot"), ('\'', "#x27")]

theorem escapePoint_cases (c : CodePoint) :
    (∃ reference ∈ references, c = reference.1 ∧
        escapePoint c = ('&' : CodePoint) :: (reference.2 ++ [(';' : CodePoint)])) ∨
      ((∀ reference ∈ references, c ≠ reference.1) ∧ escapePoint c = [c]) := by
  by_cases h : ∃ reference ∈ references, c = reference.1
  · rcases h with ⟨reference, hmem, hc⟩
    have hall : ∀ reference ∈ references,
        escapePoint reference.1 = ('&' : CodePoint) :: (reference.2 ++ [(';' : CodePoint)]) := by
      decide
    exact .inl ⟨reference, hmem, hc, hc ▸ hall reference hmem⟩
  · have hnone : ∀ reference ∈ references, c ≠ reference.1 := fun reference hmem hc =>
      h ⟨reference, hmem, hc⟩
    refine .inr ⟨hnone, ?_⟩
    simp only [references, List.forall_mem_cons] at hnone
    simp only [escapePoint, hnone, if_false]

/-- A table of references has those of the code points that are escaped. -/
def KnowsMarkup (referent? : Text → Option Text) : Prop :=
  ∀ reference ∈ references, referent? reference.2 = some [reference.1]

/-- What is read behind an ampersand; what is no reference is read as it is. -/
def resolve (referent? : Text → Option Text) (part : Text) : Text :=
  let reference := (part.cut? ';').bind fun parts => (referent? parts.1).map fun t => t ++ parts.2
  reference.getD ('&' :: part)

/-- What is read for a text with references. -/
def unescape (referent? : Text → Option Text) (t : Text) : Text :=
  match t.splitOn '&' with
  | [] => []
  | first :: parts => first ++ parts.flatMap (resolve referent?)

section

variable {referent? : Text → Option Text}

theorem unescape_append {s : Text} (h : ('&' : CodePoint) ∉ s) (t : Text) :
    unescape referent? (s ++ t) = s ++ unescape referent? t := by
  rcases Text.splitOn_eq_cons '&' t with ⟨first, parts, ht⟩
  rw [unescape, unescape, Text.splitOn_append h ht, ht]
  exact List.append_assoc s first _

theorem unescape_reference {name referent : Text} (hampersand : ('&' : CodePoint) ∉ name)
    (hsemicolon : (';' : CodePoint) ∉ name) (h : referent? name = some referent) (t : Text) :
    unescape referent? (('&' : CodePoint) :: (name ++ (';' : CodePoint) :: t)) =
      referent ++ unescape referent? t := by
  have hname : ('&' : CodePoint) ∉ name ++ [(';' : CodePoint)] := by
    rw [List.mem_append, not_or]
    exact ⟨hampersand, by decide⟩
  have hshape : name ++ (';' : CodePoint) :: t = (name ++ [(';' : CodePoint)]) ++ t :=
    List.append_cons name _ t
  rcases Text.splitOn_eq_cons '&' t with ⟨first, parts, ht⟩
  have hresolve : resolve referent? (name ++ [(';' : CodePoint)] ++ first) = referent ++ first := by
    rw [resolve, ← List.append_cons, Text.cut?_append hsemicolon, Option.bind_some, h]
    rfl
  rw [unescape, unescape, Text.splitOn_cons_self, hshape, Text.splitOn_append hname ht, ht]
  dsimp only
  rw [List.flatMap_cons, hresolve, List.nil_append, List.append_assoc]

theorem unescape_escapePoint (hknows : KnowsMarkup referent?) (c : CodePoint) (t : Text) :
    unescape referent? (escapePoint c ++ t) = c :: unescape referent? t := by
  rcases escapePoint_cases c with ⟨reference, hmem, hc, hescape⟩ | ⟨hnone, hescape⟩
  · have hnames : ∀ reference ∈ references,
        ('&' : CodePoint) ∉ reference.2 ∧ (';' : CodePoint) ∉ reference.2 := by
      decide
    have hread := unescape_reference (hnames reference hmem).1 (hnames reference hmem).2
      (hknows reference hmem) t
    rw [hescape, List.cons_append, List.append_assoc, List.singleton_append, hread, hc]
    rfl
  · have hampersand : ('&' : CodePoint) ∉ [c] := by
      rw [List.mem_singleton]
      exact (hnone ('&', "amp") List.mem_cons_self).symm
    rw [hescape, unescape_append hampersand]
    rfl

/-- Nothing is lost by escaping. -/
theorem unescape_escape (hknows : KnowsMarkup referent?) (t : Text) :
    unescape referent? (escape t) = t := by
  induction t with
  | nil => rfl
  | cons c rest ih =>
      rw [escape, List.flatMap_cons, ← escape, unescape_escapePoint hknows, ih]

end

/-!
# Tags

Angles stand around tags and nowhere else, so a page is split at them.
-/

def isAngle (c : CodePoint) : Bool := c = '<' || c = '>'

def angles (t : Text) : Text := t.filter isAngle

/-- The tags of a text, each with what stands between it and the next one. -/
def tagged (t : Text) : List (Text × Text) :=
  ((t.splitOn '<').drop 1).filterMap fun part => part.cut? '>'

/-- What stands behind the tags of a kind. -/
def behind (tag : Text) (entries : List (Text × Text)) : List Text :=
  (entries.filter fun entry => entry.1 = tag).map Prod.snd

theorem behind_append (tag : Text) (entries others : List (Text × Text)) :
    behind tag (entries ++ others) = behind tag entries ++ behind tag others := by
  rw [behind, List.filter_append, List.map_append]
  rfl

theorem behind_flatMap {α : Type} (tag : Text) (items : List α) (f : α → List (Text × Text)) :
    behind tag (items.flatMap f) = items.flatMap fun item => behind tag (f item) := by
  induction items with
  | nil => rfl
  | cons item rest ih => rw [List.flatMap_cons, behind_append, ih, List.flatMap_cons]

/-- What stands behind the tags of a kind in a text. -/
def contents (tag t : Text) : List Text := behind tag (tagged t)

def IsPlain (t : Text) : Prop := ∀ c ∈ t, isAngle c = false

instance (t : Text) : Decidable (IsPlain t) :=
  List.decidableBAll (fun c => isAngle c = false) t

theorem isPlain_append (s t : Text) : IsPlain (s ++ t) ↔ IsPlain s ∧ IsPlain t :=
  List.forall_mem_append

theorem isPlain_escape (t : Text) : IsPlain (escape t) := by
  intro d hd
  rcases List.mem_flatMap.mp hd with ⟨c, _, hd⟩
  rcases escapePoint_cases c with ⟨reference, hmem, _, hescape⟩ | ⟨hnone, hescape⟩
  · have hplain : ∀ reference ∈ references,
        IsPlain (('&' : CodePoint) :: (reference.2 ++ [(';' : CodePoint)])) := by
      decide
    rw [hescape] at hd
    exact hplain reference hmem d hd
  · rw [hescape, List.mem_singleton] at hd
    have hless := hnone ('<', "lt") (by decide)
    have hgreater := hnone ('>', "gt") (by decide)
    rw [hd, isAngle, decide_eq_false hless, decide_eq_false hgreater]
    rfl

theorem isPlain_escapeScript (t : Text) : IsPlain (escapeScript t) := by
  intro c hc
  have hmarkup := Json.not_isMarkup_of_mem_escapeScript hc
  simp only [Json.IsMarkup, not_or] at hmarkup
  rw [isAngle, decide_eq_false hmarkup.2.1, decide_eq_false hmarkup.2.2]
  rfl

theorem IsPlain.angles_eq_nil {t : Text} (h : IsPlain t) : angles t = [] := by
  apply List.filter_eq_nil_iff.mpr
  intro c hc
  rw [h c hc]
  exact Bool.false_ne_true

theorem IsPlain.not_mem {t : Text} (h : IsPlain t) {c : CodePoint} (hc : isAngle c = true) :
    c ∉ t := by
  intro hmem
  rw [h c hmem] at hc
  cases hc

/-!
# Pages made of tags

A text that is made of tags has these tags and no other angles than theirs.
-/

/-- The text of tags with what stands between them. -/
def assemble (entries : List (Text × Text)) : Text :=
  entries.flatMap fun entry =>
    ('<' : CodePoint) :: (entry.1 ++ ('>' : CodePoint) :: entry.2)

/-- There are no angles but those around the tags. -/
def IsTagged (entries : List (Text × Text)) : Prop :=
  ∀ entry ∈ entries, IsPlain entry.1 ∧ IsPlain entry.2

instance (entries : List (Text × Text)) : Decidable (IsTagged entries) :=
  inferInstanceAs (Decidable (∀ entry ∈ entries, IsPlain entry.1 ∧ IsPlain entry.2))

theorem assemble_append (entries others : List (Text × Text)) :
    assemble (entries ++ others) = assemble entries ++ assemble others :=
  List.flatMap_append

theorem isTagged_append (entries others : List (Text × Text)) :
    IsTagged (entries ++ others) ↔ IsTagged entries ∧ IsTagged others :=
  List.forall_mem_append

theorem splitOn_assemble {entries : List (Text × Text)} (h : IsTagged entries) :
    Text.splitOn '<' (assemble entries) =
      [] :: entries.map fun entry => entry.1 ++ ('>' : CodePoint) :: entry.2 := by
  induction entries with
  | nil => rfl
  | cons entry rest ih =>
      have hentry := h entry List.mem_cons_self
      have hrest : IsTagged rest := fun other hother => h other (List.mem_cons_of_mem _ hother)
      have hless : ('<' : CodePoint) ∉ entry.1 ++ ('>' : CodePoint) :: entry.2 := by
        rw [List.mem_append, List.mem_cons, not_or, not_or]
        exact ⟨hentry.1.not_mem rfl, by decide, hentry.2.not_mem rfl⟩
      rw [assemble, List.flatMap_cons, ← assemble, List.cons_append, Text.splitOn_cons_self,
        Text.splitOn_append hless (ih hrest), List.append_nil, List.map_cons]

theorem tagged_assemble {entries : List (Text × Text)} (h : IsTagged entries) :
    tagged (assemble entries) = entries := by
  have hcut : ∀ entry ∈ entries,
      Text.cut? '>' (entry.1 ++ ('>' : CodePoint) :: entry.2) = some entry := fun entry hentry =>
    Text.cut?_append ((h entry hentry).1.not_mem rfl) entry.2
  rw [tagged, splitOn_assemble h, List.drop_one, List.tail_cons, List.filterMap_map]
  exact (List.filterMap_congr hcut).trans (List.filterMap_some)

theorem angles_assemble {entries : List (Text × Text)} (h : IsTagged entries) :
    angles (assemble entries) = entries.flatMap fun _ => "<>" := by
  induction entries with
  | nil => rfl
  | cons entry rest ih =>
      have hentry := h entry List.mem_cons_self
      have hrest := ih fun other hother => h other (List.mem_cons_of_mem _ hother)
      have happend : ∀ s t : Text, angles (s ++ t) = angles s ++ angles t := fun s t =>
        List.filter_append s t
      have hangles : ∀ t : Text, angles (('<' : CodePoint) :: t) = ('<' : CodePoint) :: angles t ∧
          angles (('>' : CodePoint) :: t) = ('>' : CodePoint) :: angles t := fun t => ⟨rfl, rfl⟩
      rw [assemble, List.flatMap_cons, ← assemble, List.flatMap_cons, happend, hrest,
        (hangles _).1, happend, (hangles _).2, hentry.1.angles_eq_nil, hentry.2.angles_eq_nil]
      rfl

end Html
end TunnelBoard
