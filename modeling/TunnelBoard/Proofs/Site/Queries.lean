import TunnelBoard.Proofs.Text.Splitting
import TunnelBoard.Site.Request

/-!
# Queries without a name

A request without the fields of a name is the request whose query string has all
other parts.  The fields that are left keep their values.
-/

namespace TunnelBoard
namespace Site

namespace Query

/-- A query string without the fields of a name. -/
def without (name : Text) (t : Text) : Text :=
  Text.join [('&' : CodePoint)] ((t.splitOn '&').filter fun part => (field part).1 ≠ name)

theorem parse_eq_some_iff {limit : Option Nat} {t : Text} {query : Query} :
    parse limit t = some query ↔
      (t = [] ∨ ∀ n ∈ limit, (t.splitOn '&').length ≤ n) ∧
        ((t.splitOn '&').filter fun part => !part.isEmpty).map field = query := by
  have hlimit : (!t.isEmpty && limit.any fun n => n < (t.splitOn '&').length) = true ↔
      ¬ (t = [] ∨ ∀ n ∈ limit, (t.splitOn '&').length ≤ n) := by
    cases limit with
    | none => simp
    | some n => simp
  unfold parse
  by_cases hwithin : t = [] ∨ ∀ n ∈ limit, (t.splitOn '&').length ≤ n
  · rw [if_neg fun h => hlimit.mp h hwithin]
    exact ⟨fun h => ⟨hwithin, Option.some.inj h⟩, fun h => congrArg some h.2⟩
  · rw [if_pos (hlimit.mpr hwithin)]
    constructor
    · intro h
      cases h
    · intro h
      exact absurd h.1 hwithin

theorem filter_fields (parts : List Text) (name : Text) :
    ((parts.filter fun part => !part.isEmpty).map field).filter (fun f => f.1 ≠ name) =
      ((parts.filter fun part => (field part).1 ≠ name).filter fun part => !part.isEmpty).map
        field := by
  rw [List.filter_map, List.filter_filter, List.filter_filter]
  apply congrArg (List.map field)
  apply List.filter_congr
  intro part _
  exact Bool.and_comm _ _

theorem without_nil (name : Text) : without name [] = [] := by
  unfold without
  rw [Text.splitOn, List.filter_cons, List.filter_nil]
  split <;> rfl

theorem parse_without {limit : Option Nat} {t : Text} {query : Query}
    (h : parse limit t = some query) (name : Text) :
    parse limit (without name t) = some (query.filter fun f => f.1 ≠ name) := by
  rw [parse_eq_some_iff] at h ⊢
  rcases h with ⟨hlimit, hfields⟩
  have hpart : ∀ part ∈ (t.splitOn '&').filter fun part => (field part).1 ≠ name,
      ('&' : CodePoint) ∉ part :=
    fun part hmem => Text.not_mem_of_mem_splitOn (List.mem_filter.mp hmem).1
  have hlength := List.length_filter_le (fun part => decide ((field part).1 ≠ name))
    (t.splitOn '&')
  constructor
  · rcases hlimit with hempty | hlimit
    · subst hempty
      exact .inl (without_nil name)
    · by_cases hnil : ((t.splitOn '&').filter fun part => (field part).1 ≠ name) = []
      · apply Or.inl
        rw [without, hnil]
        rfl
      · apply Or.inr
        intro n hn
        rw [without, Text.splitOn_join hnil hpart]
        exact Nat.le_trans hlength (hlimit n hn)
  · rw [← hfields, filter_fields, without]
    by_cases hnil : ((t.splitOn '&').filter fun part => (field part).1 ≠ name) = []
    · rw [hnil]
      rfl
    · rw [Text.splitOn_join hnil hpart]

/-!
# Values

The fields of other names keep their order, so the last one of a name stays the
last one.
-/

theorem last?_filter_of_ne (query : Query) {name other : Text} (h : other ≠ name) :
    last? (query.filter fun f => f.1 ≠ name) other = last? query other := by
  rw [last?, last?, ← List.filter_reverse]
  exact Text.lookup_filter_of_ne query.reverse h

theorem last?_filter_self (query : Query) (name : Text) :
    last? (query.filter fun f => f.1 ≠ name) name = none := by
  rw [last?, List.lookup_eq_none_iff]
  intro f hf
  rw [List.mem_reverse, List.mem_filter] at hf
  have hne : f.1 ≠ name := by simpa using hf.2
  exact bne_iff_ne.mpr hne.symm

end Query

/-- A request without the fields of a name. -/
def Request.without (r : Request) (name : Text) : Request :=
  { r with query := Query.without name r.query }

theorem Request.fields_without {policy : Policy} {r : Request} {query : Query}
    (h : r.fields policy = .ok query) (name : Text) :
    (r.without name).fields policy = .ok (query.filter fun f => f.1 ≠ name) := by
  unfold fields at h ⊢
  cases hparse : Query.parse policy.fieldLimit r.query with
  | none =>
      rw [hparse] at h
      cases h
  | some parsed =>
      rw [hparse] at h
      cases h
      have hquery : (r.without name).query = Query.without name r.query := rfl
      rw [hquery, Query.parse_without hparse name]

end Site
end TunnelBoard
