import TunnelBoard.Json.Basic
import TunnelBoard.Proofs.Text.Splitting

/-!
# Places in JSON

A place is a way down into JSON, by the names of fields and the numbers of items.
What stands at a place can be changed, and a field there can be dropped.  Both
leave alone whatever stands apart from the place.

Two JSON values are the same if they have the same at every place.  The order of
their fields does not count.
-/

namespace TunnelBoard
namespace Json

/-- The field of an object. -/
def field? (name : Text) : Json → Option Json
  | .object fields => fields.lookup name
  | _ => none

def item? (index : Nat) : Json → Option Json
  | .array items => items[index]?
  | _ => none

inductive Step where
  | field (name : Text)
  | item (index : Nat)
deriving DecidableEq

abbrev Place := List Step

def Step.part? : Step → Json → Option Json
  | .field name => field? name
  | .item index => item? index

/-- What stands at a place. -/
def at? : Place → Json → Option Json
  | [], j => some j
  | step :: rest, j => (step.part? j).bind (at? rest)

/-- Changes the part that a step leads to, if there is one. -/
def Step.change (f : Json → Json) : Step → Json → Json
  | .field name, .object fields =>
      .object (fields.map fun field => (field.1, if name == field.1 then f field.2 else field.2))
  | .item index, .array items => .array (items.modify index f)
  | _, j => j

/-- Changes what stands at a place, if there is something. -/
def change (f : Json → Json) : Place → Json → Json
  | [], j => f j
  | step :: rest, j => step.change (change f rest) j

/-- Puts something else at a place where something stands. -/
def put (new : Json) (place : Place) (j : Json) : Json := change (fun _ => new) place j

def dropField (name : Text) : Json → Json
  | .object fields => .object (fields.filter fun field => field.1 ≠ name)
  | j => j

/-- Drops a field of what stands at a place. -/
def drop (place : Place) (name : Text) (j : Json) : Json := change (dropField name) place j

/-!
# Places that are apart

Two places are apart if neither lies on the way to the other.
-/

def Apart (p q : Place) : Prop := ¬ p <+: q ∧ ¬ q <+: p

theorem apart_cons_self (step : Step) (p q : Place) :
    Apart (step :: p) (step :: q) ↔ Apart p q := by
  rw [Apart, Apart, List.cons_prefix_cons, List.cons_prefix_cons]
  simp

theorem apart_append_left (p q r : Place) : Apart (p ++ q) (p ++ r) ↔ Apart q r := by
  rw [Apart, Apart, List.prefix_append_right_inj, List.prefix_append_right_inj]

/-- A place apart from a longer one either is apart from its beginning or goes on from there. -/
theorem apart_append {p q r : Place} (h : Apart (p ++ q) r) :
    Apart p r ∨ ∃ rest, r = p ++ rest ∧ Apart q rest := by
  by_cases hbegins : p <+: r
  · rcases hbegins with ⟨rest, hr⟩
    rw [← hr, apart_append_left] at h
    exact .inr ⟨rest, hr.symm, h⟩
  · exact .inl ⟨hbegins, fun hends => h.2 (hends.trans (List.prefix_append p q))⟩

/-!
# Parts
-/

theorem lookup_map (f : Json → Json) (name other : Text) (fields : List (Text × Json)) :
    (fields.map fun field => (field.1, if name == field.1 then f field.2 else field.2)).lookup
        other =
      (fields.lookup other).map fun j => if name == other then f j else j := by
  induction fields with
  | nil => rfl
  | cons field rest ih =>
      rw [List.map_cons, List.lookup_cons, List.lookup_cons]
      cases hother : other == field.1 with
      | false => exact ih
      | true =>
          rw [eq_of_beq hother]
          rfl

theorem part?_change_self (f : Json → Json) (step : Step) (j : Json) :
    step.part? (step.change f j) = (step.part? j).map f := by
  cases step with
  | field name =>
      cases j with
      | object fields =>
          show List.lookup name (fields.map _) = (fields.lookup name).map f
          rw [lookup_map]
          simp
      | _ => rfl
  | item index =>
      cases j with
      | array items => exact List.getElem?_modify_eq f index items
      | _ => rfl

theorem part?_change_of_ne (f : Json → Json) {step other : Step} (h : step ≠ other) (j : Json) :
    other.part? (step.change f j) = other.part? j := by
  cases step with
  | field name =>
      cases j with
      | object fields =>
          cases other with
          | field otherName =>
              have hne : (name == otherName) = false :=
                beq_false_of_ne fun heq => h (congrArg Step.field heq)
              show List.lookup otherName (fields.map _) = fields.lookup otherName
              rw [lookup_map, hne]
              simp
          | item index => rfl
      | _ => rfl
  | item index =>
      cases j with
      | array items =>
          cases other with
          | field name => rfl
          | item otherIndex =>
              exact List.getElem?_modify_ne f items fun heq => h (congrArg Step.item heq)
      | _ => rfl

/-!
# Changes
-/

theorem at?_append (p q : Place) (j : Json) : at? (p ++ q) j = (at? p j).bind (at? q) := by
  induction p generalizing j with
  | nil => rfl
  | cons step rest ih =>
      show (step.part? j).bind (at? (rest ++ q)) = ((step.part? j).bind (at? rest)).bind (at? q)
      cases step.part? j with
      | none => rfl
      | some part => exact ih part

/-- A change can be seen at its place. -/
theorem at?_change_self (f : Json → Json) (p : Place) (j : Json) :
    at? p (change f p j) = (at? p j).map f := by
  induction p generalizing j with
  | nil => rfl
  | cons step rest ih =>
      show (step.part? (step.change (change f rest) j)).bind (at? rest) =
        ((step.part? j).bind (at? rest)).map f
      rw [part?_change_self]
      cases step.part? j with
      | none => rfl
      | some part => exact ih part

/-- A change cannot be seen apart from its place. -/
theorem at?_change_of_apart (f : Json → Json) {p q : Place} (h : Apart p q) (j : Json) :
    at? q (change f p j) = at? q j := by
  induction p generalizing q j with
  | nil => exact absurd List.nil_prefix h.1
  | cons step rest ih =>
      cases q with
      | nil => exact absurd List.nil_prefix h.2
      | cons other otherRest =>
          show (other.part? (step.change (change f rest) j)).bind (at? otherRest) =
            (other.part? j).bind (at? otherRest)
          by_cases hstep : step = other
          · subst hstep
            rw [part?_change_self]
            cases step.part? j with
            | none => rfl
            | some part => exact ih ((apart_cons_self step rest otherRest).mp h) part
          · rw [part?_change_of_ne _ hstep]

theorem at?_put_of_apart (new : Json) {p q : Place} (h : Apart p q) (j : Json) :
    at? q (put new p j) = at? q j :=
  at?_change_of_apart _ h j

theorem at?_dropField_of_apart {name : Text} {q : Place} (h : Apart [.field name] q) (j : Json) :
    at? q (dropField name j) = at? q j := by
  cases q with
  | nil => exact absurd List.nil_prefix h.2
  | cons other rest =>
      cases j with
      | object fields =>
          cases other with
          | field otherName =>
              have hne : otherName ≠ name := by
                intro heq
                rw [← heq] at h
                exact h.1 (List.prefix_append [Step.field otherName] rest)
              show (List.lookup otherName (fields.filter _)).bind (at? rest) =
                (fields.lookup otherName).bind (at? rest)
              rw [Text.lookup_filter_of_ne fields hne]
          | item index => rfl
      | _ => rfl

theorem at?_drop_of_apart {p q : Place} {name : Text} (h : Apart (p ++ [.field name]) q)
    (j : Json) : at? q (drop p name j) = at? q j := by
  rcases apart_append h with hbegin | ⟨rest, hq, hrest⟩
  · exact at?_change_of_apart _ hbegin j
  · rw [hq, at?_append, at?_append, drop, at?_change_self]
    cases at? p j with
    | none => rfl
    | some part => exact at?_dropField_of_apart hrest part

/-- Several changes cannot be seen where none of them can. -/
theorem at?_foldl {α : Type} {change : Json → α → Json} {changes : List α} {q : Place}
    (h : ∀ a ∈ changes, ∀ j, at? q (change j a) = at? q j) (j : Json) :
    at? q (changes.foldl change j) = at? q j := by
  induction changes generalizing j with
  | nil => rfl
  | cons a rest ih =>
      rw [List.forall_mem_cons] at h
      rw [List.foldl_cons, ih h.2, h.1]

/-!
# Sameness
-/

/-- A value without parts, or the kind of a value with parts. -/
inductive Top where
  | null
  | bool (b : Bool)
  | int (n : Int)
  | text (t : Text)
  | array
  | object

def top : Json → Top
  | .null => .null
  | .bool b => .bool b
  | .int n => .int n
  | .text t => .text t
  | .array _ => .array
  | .object _ => .object

def Same (j k : Json) : Prop := ∀ place, (j.at? place).map top = (k.at? place).map top

namespace Same

theorem of_eq {j k : Json} (h : j = k) : Same j k := by
  rw [h]
  intro place
  rfl

theorem part {j k first second : Json} (h : Same j k) (place : Place)
    (hfirst : j.at? place = some first) (hsecond : k.at? place = some second) :
    Same first second := by
  intro rest
  have hrest := h (place ++ rest)
  rw [at?_append, at?_append, hfirst, hsecond] at hrest
  exact hrest

theorem text_inj {t u : Text} (h : Same (.text t) (.text u)) : t = u :=
  Top.text.inj (Option.some.inj (h []))

theorem int_inj {m n : Int} (h : Same (.int m) (.int n)) : m = n :=
  Top.int.inj (Option.some.inj (h []))

theorem bool_inj {b c : Bool} (h : Same (.bool b) (.bool c)) : b = c :=
  Top.bool.inj (Option.some.inj (h []))

/-- What is read off an optional part of the same values is equal. -/
theorem option_inj {α : Type} {write : α → Json} {j k : Json} {first second : Option α}
    {place : Place} (h : Same j k) (hwrite : ∀ a b, Same (write a) (write b) → a = b)
    (hfirst : j.at? place = first.map write) (hsecond : k.at? place = second.map write) :
    first = second := by
  have htop := h place
  rw [hfirst, hsecond] at htop
  cases first with
  | none =>
      cases second with
      | none => rfl
      | some b => cases htop
  | some a =>
      cases second with
      | none => cases htop
      | some b => rw [hwrite a b (h.part place hfirst hsecond)]

theorem array_inj {α : Type} {write : α → Json} {items others : List α}
    (h : Same (.array (items.map write)) (.array (others.map write)))
    (hwrite : ∀ a b, Same (write a) (write b) → a = b) : items = others := by
  have hitem : ∀ (list : List α) (index : Nat),
      at? [.item index] (.array (list.map write)) = (list[index]?).map write := by
    intro list index
    rw [← List.getElem?_map]
    exact Option.bind_fun_some _
  apply List.ext_getElem?
  intro index
  exact h.option_inj hwrite (hitem items index) (hitem others index)

end Same
end Json
end TunnelBoard
