import TunnelBoard.Counter
import TunnelBoard.Text.Blank
import TunnelBoard.Text.Lower

/-!
# Counts of proxies

The server counts its proxies by protocol.  Different spellings of a protocol
name are one protocol: the names are trimmed, lower-cased and merged, and their
counts added.  Names stay in the order of their first entries.
-/

namespace TunnelBoard

/-- Counts by name, each name once, in the order of first occurrence. -/
abbrev Counts := List (Text × Nat)

namespace Counts

/-- Adds to the count of a name, which is put at the end if it is new. -/
def add (name : Text) (n : Nat) : Counts → Counts
  | [] => [(name, n)]
  | (known, m) :: rest =>
      if known = name then (known, m + n) :: rest else (known, m) :: add name n rest

/-- The count of a name; a name that does not occur has count zero. -/
def get (counts : Counts) (name : Text) : Nat := (counts.lookup name).getD 0

@[simp]
theorem get_nil (name : Text) : get [] name = 0 := rfl

theorem get_cons (known name : Text) (m : Nat) (rest : Counts) :
    get ((known, m) :: rest) name = if name = known then m else get rest name := by
  unfold get
  rw [List.lookup_cons]
  by_cases h : name = known
  · simp [h]
  · have differ : (name == known) = false := beq_false_of_ne h
    simp [h, differ]

/-- Adding to a name changes the count of this name only. -/
theorem get_add (name other : Text) (n : Nat) (counts : Counts) :
    (counts.add name n).get other = counts.get other + if other = name then n else 0 := by
  induction counts with
  | nil =>
      show get [(name, n)] other = _
      rw [get_cons]
      simp
  | cons entry rest ih =>
      rcases entry with ⟨known, m⟩
      by_cases h : known = name
      · subst h
        simp only [add, if_true, get_cons]
        by_cases hother : other = known <;> simp [hother]
      · simp only [add, if_neg h, get_cons, ih]
        by_cases hother : other = known
        · subst hother
          simp [h]
        · simp [hother]

/-- A name that is new goes to the end; the other names keep their places. -/
theorem names_add (name : Text) (n : Nat) (counts : Counts) :
    (counts.add name n).map Prod.fst =
      counts.map Prod.fst ++
        if (counts.map Prod.fst).contains name then [] else [name] := by
  induction counts with
  | nil => simp [add]
  | cons entry rest ih =>
      rcases entry with ⟨known, m⟩
      by_cases h : known = name
      · simp [add, h]
      · have differ : (name == known) = false := beq_false_of_ne fun e => h e.symm
        simp only [add, if_neg h, List.map_cons, ih, List.contains_cons, differ, Bool.false_or,
          List.cons_append]

def nameOf (key : Value) : Text := key.plain.trim.lower

/-- Adds one entry of a mapping; an entry with a blank key is passed over. -/
def addEntry (counts : Counts) (entry : Value × Value) : Counts :=
  let name := nameOf entry.1
  if name.isEmpty then counts else counts.add name (Counter.ofValue entry.2)

def ofEntries (entries : List (Value × Value)) : Counts := entries.foldl addEntry []

/-- The counts in a value; only a mapping has any. -/
def ofValue : Value → Counts
  | .map entries => ofEntries entries
  | _ => []

def toValue (counts : Counts) : Value := .map (counts.map fun (name, n) => (.text name, .int n))

end Counts
end TunnelBoard
