import TunnelBoard.Text.Utf8
import TunnelBoard.Number.Binary64
import TunnelBoard.Number.Decimal

/-!
# Values

What a statistics server sends, and what a setting holds, is a value of one of
nine kinds.  Numbers of the four kinds that have a number in them are compared
by the number they denote, exactly.
-/

namespace TunnelBoard

inductive Value where
  | null
  | bool (b : Bool)
  | int (n : Int)
  | float (x : Binary64)
  | decimal (d : Decimal)
  | text (t : Text)
  | bytes (b : Bytes)
  | list (items : List Value)
  | map (entries : List (Value × Value))

namespace Value

instance : Inhabited Value := ⟨.null⟩

def kindName : Value → Text
  | .null => "NoneType"
  | .bool _ => "bool"
  | .int _ => "int"
  | .float _ => "float"
  | .decimal _ => "decimal.Decimal"
  | .text _ => "str"
  | .bytes _ => "bytes"
  | .list _ => "list"
  | .map _ => "dict"

/-- Whether a value counts as present: zero, false and whatever is empty do not. -/
def isTruthy : Value → Bool
  | .null => false
  | .bool b => b
  | .int n => n ≠ 0
  | .float (.finite _ units _) => units ≠ 0
  | .float _ => true
  | .decimal (.finite _ coefficient _) => coefficient ≠ 0
  | .decimal _ => true
  | .text t => !t.isEmpty
  | .bytes b => !b.isEmpty
  | .list items => !items.isEmpty
  | .map entries => !entries.isEmpty

/-!
# Numbers
-/

/-- What a number denotes. -/
inductive Amount where
  /-- A decimal fraction in its unique form: sign, coefficient and power of ten. -/
  | exact (form : Bool × Nat × Int)
  | infinite (negative : Bool)
  /-- A value that is not a number and equals nothing. -/
  | undefined
  /-- A value that is not a number and must not be compared. -/
  | signaling
deriving DecidableEq, Repr

/-- The amount of an integer. -/
def Amount.ofInt (n : Int) : Amount := .exact (Decimal.canonical (n < 0) n.natAbs 0)

/-- The amount a value of a numeric kind denotes; every finite one is a decimal fraction. -/
def amount? : Value → Option Amount
  | .bool b => some (.ofInt (if b then 1 else 0))
  | .int n => some (.ofInt n)
  | .float .nan => some .undefined
  | .float (.infinite negative) => some (.infinite negative)
  | .float (.finite negative units unit) =>
      if 0 ≤ unit then some (.exact (Decimal.canonical negative (units * Nat.pow 2 unit.natAbs) 0))
      else some (.exact (Decimal.canonical negative (units * Nat.pow 5 unit.natAbs) unit))
  | .decimal (.finite negative coefficient exponent) =>
      some (.exact (Decimal.canonical negative coefficient exponent))
  | .decimal (.infinite negative) => some (.infinite negative)
  | .decimal (.nan _ signaling _) => some (if signaling then .signaling else .undefined)
  | _ => none

def Amount.equals : Amount → Amount → Bool
  | .exact a, .exact b => a = b
  | .infinite a, .infinite b => a = b
  | _, _ => false

/-!
# Mappings
-/

/-- Whether two values are the same key of a mapping. -/
def sameKey (a b : Value) : Bool :=
  match a.amount?, b.amount? with
  | some m, some n => m.equals n
  | _, _ =>
      match a, b with
      | .null, .null => true
      | .text s, .text t => s = t
      | .bytes s, .bytes t => s = t
      | _, _ => false

/-- Replaces the value of the entry with the same key, or adds an entry at the end. -/
def insertEntry (key value : Value) : List (Value × Value) → List (Value × Value)
  | [] => [(key, value)]
  | (k, v) :: rest =>
      if sameKey k key then (k, value) :: rest else (k, v) :: insertEntry key value rest

/-- The mapping of a list of entries: a repeated key keeps its first place and its last value. -/
def ofEntries (entries : List (Value × Value)) : Value :=
  .map (entries.foldl (fun known (k, v) => insertEntry k v known) [])

def lookup (key : Text) (entries : List (Value × Value)) : Option Value :=
  (entries.find? fun (k, _) => sameKey k (.text key)).map (·.2)

end Value
end TunnelBoard
