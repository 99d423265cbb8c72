import TunnelBoard.Proofs.Snapshot.Merging
import TunnelBoard.Snapshot.Basic

/-!
# Reading a snapshot again

A snapshot that was read from any mapping and is written under the names the
server uses can be read again.  All of it comes back except the counts of
proxies that left the range of counters when they were added up, which become
zero.
-/

namespace TunnelBoard

namespace Counter

theorem ofValue_le (v : Value) : ofValue v ≤ limit := by
  have htext : ∀ t : Text, ofText t ≤ limit := by
    intro t
    unfold ofText
    cases Decimal.ofText? t.trim with
    | none => exact Nat.zero_le limit
    | some d =>
        cases d with
        | finite negative coefficient exponent =>
            show ofDecimal (.finite negative coefficient exponent) ≤ limit
            rw [ofDecimal]
            split
            · exact Nat.zero_le limit
            · exact ofInt_le _
        | infinite negative => exact Nat.zero_le limit
        | nan negative signaling payload => exact Nat.zero_le limit
  cases v with
  | null => exact Nat.zero_le limit
  | bool b => exact Nat.zero_le limit
  | int n => exact ofInt_le n
  | _ => exact htext _

end Counter

namespace Snapshot

/-!
# Counters in range
-/

/-- The counters of a snapshot, apart from the counts of its proxies. -/
def counters (s : Snapshot) : List Nat :=
  [ s.bindPort, s.httpPort, s.httpsPort, s.muxPort, s.kcpPort, s.quicPort, s.maxPoolCount
  , s.maxPortsPerClient, s.heartbeatTimeout, s.trafficIn, s.trafficOut, s.connections, s.clients ]

theorem counterAt_le (name : Text) (entries : List (Value × Value)) :
    counterAt name entries ≤ Counter.limit := by
  unfold counterAt
  cases Value.lookup name entries with
  | none => exact Nat.zero_le Counter.limit
  | some v => exact Counter.ofValue_le v

theorem counters_ofEntries_le (entries : List (Value × Value)) :
    ∀ n ∈ (ofEntries entries).counters, n ≤ Counter.limit := by
  intro n hn
  simp only [counters, ofEntries, List.mem_cons, List.not_mem_nil, or_false] at hn
  rcases hn with h | h | h | h | h | h | h | h | h | h | h | h | h <;>
    exact h ▸ counterAt_le _ entries

theorem isMerged_proxies_ofEntries (entries : List (Value × Value)) :
    (ofEntries entries).proxies.IsMerged := by
  show (countsAt "proxyTypeCount" entries).IsMerged
  unfold countsAt
  cases Value.lookup "proxyTypeCount" entries with
  | none => exact Counts.isMerged_nil
  | some v => exact Counts.isMerged_ofValue v

/-!
# Writing and reading
-/

theorem toValue_countFields (counts : Counts) :
    (Json.object (countFields counts)).toValue = counts.toValue := by
  have hentries : Json.fieldValues (countFields counts) =
      counts.map fun entry => (.text entry.1, .int entry.2) := by
    induction counts with
    | nil => rfl
    | cons entry rest ih =>
        rcases entry with ⟨name, n⟩
        rw [countFields, List.map_cons, Json.fieldValues, ← countFields, ih]
        rfl
  rw [Json.toValue, hentries]
  rfl

/-- Every field is read from the name under which it is written. -/
theorem ofEntries_fieldValues {s : Snapshot} (h : ∀ n ∈ s.counters, n ≤ Counter.limit) :
    ofEntries (Json.fieldValues s.fields) =
      { s with proxies := Counts.ofValue s.proxies.toValue } := by
  have htext : ∀ t : Text, (if (Value.text t).isTruthy then (Value.text t).plain else []) = t := by
    intro t
    cases t with
    | nil => rfl
    | cons c rest => rfl
  have hcounter : ∀ n ∈ s.counters, Counter.ofInt n = n := by
    intro n hn
    exact (Counter.ofInt_natCast_eq_self_iff n).mpr (h n hn)
  have hcounts : countsAt "proxyTypeCount" (Json.fieldValues s.fields) =
      Counts.ofValue s.proxies.toValue := by
    rw [← toValue_countFields]
    rfl
  simp only [counters, List.forall_mem_cons] at hcounter
  rcases hcounter with ⟨h₁, h₂, h₃, h₄, h₅, h₆, h₇, h₈, h₉, h₁₀, h₁₁, h₁₂, h₁₃, _⟩
  rw [ofEntries, hcounts]
  show Snapshot.mk
      (if (Value.text s.version).isTruthy then (Value.text s.version).plain else [])
      (Counter.ofInt s.bindPort) (Counter.ofInt s.httpPort) (Counter.ofInt s.httpsPort)
      (Counter.ofInt s.muxPort) (Counter.ofInt s.kcpPort) (Counter.ofInt s.quicPort)
      (if (Value.text s.subdomainHost).isTruthy then (Value.text s.subdomainHost).plain else [])
      (Counter.ofInt s.maxPoolCount) (Counter.ofInt s.maxPortsPerClient)
      (Counter.ofInt s.heartbeatTimeout)
      (if (Value.text s.allowedPorts).isTruthy then (Value.text s.allowedPorts).plain else [])
      s.tlsForced (Counter.ofInt s.trafficIn) (Counter.ofInt s.trafficOut)
      (Counter.ofInt s.connections) (Counter.ofInt s.clients)
      (Counts.ofValue s.proxies.toValue) = _
  rw [htext, htext, htext, h₁, h₂, h₃, h₄, h₅, h₆, h₇, h₈, h₉, h₁₀, h₁₁, h₁₂, h₁₃]

/-- A snapshot read from a mapping comes back with its counts taken for counters. -/
theorem ofValue_toValue_toJson (entries : List (Value × Value)) :
    ofValue (ofEntries entries).toJson.toValue =
      .ok { ofEntries entries with proxies := (ofEntries entries).proxies.inRange } := by
  show Except.ok (ofEntries (Json.fieldValues (ofEntries entries).fields)) = _
  rw [ofEntries_fieldValues (counters_ofEntries_le entries),
    Counts.ofValue_toValue (isMerged_proxies_ofEntries entries)]

/--
A snapshot comes back from its own JSON if and only if none of its counts is
greater than a counter can be.  Otherwise it comes back with zeros in place of
these counts and without any other difference.
-/
theorem reread_eq_iff_counts_le {v : Value} {s : Snapshot} (hread : ofValue v = .ok s) :
    ∃ reread, ofValue s.toJson.toValue = .ok reread ∧
      (reread = s ↔ ∀ entry ∈ s.proxies, entry.2 ≤ Counter.limit) ∧
      { reread with proxies := s.proxies } = s ∧
      (s.proxies.map Prod.fst).Nodup ∧
      reread.proxies.map Prod.fst = s.proxies.map Prod.fst ∧
      ∀ name, reread.proxies.get name =
        if Counter.limit < s.proxies.get name then 0 else s.proxies.get name := by
  cases v with
  | map entries =>
      have hs : ofEntries entries = s := by
        simpa [ofValue] using hread
      subst hs
      refine ⟨_, ofValue_toValue_toJson entries, ?_, rfl,
        (isMerged_proxies_ofEntries entries).nodup, ?_, ?_⟩
      · rw [← Counts.inRange_eq_self_iff]
        constructor
        · intro heq
          exact congrArg Snapshot.proxies heq
        · intro heq
          rw [heq]
      · show (Counts.inRange _).map Prod.fst = _
        rw [Counts.inRange, List.map_map]
        rfl
      · intro name
        show (Counts.inRange _).get name = _
        rw [Counts.get_inRange, Counter.ofInt_natCast]
        split
        · rw [if_neg (by omega)]
        · rw [if_pos (by omega)]
  | _ => cases hread

/-- Two spellings of a name whose counts are counters while their sum is none. -/
def twoSpellings : List (Value × Value) :=
  [(.text "proxyTypeCount",
    .map [(.text "TCP", .int Counter.limit), (.text " tcp", .int 1), (.text "udp", .int 1)])]

theorem reread_twoSpellings :
    ∃ s reread, ofValue (.map twoSpellings) = .ok s ∧ ofValue s.toJson.toValue = .ok reread ∧
      reread ≠ s ∧ s.proxies.get "tcp" = Counter.limit + 1 ∧ reread.proxies.get "tcp" = 0 ∧
      reread.proxies.get "udp" = 1 := by
  rcases reread_eq_iff_counts_le (v := .map twoSpellings) rfl with
    ⟨reread, hreread, heq, _, _, _, hget⟩
  refine ⟨_, reread, rfl, hreread, ?_, rfl, ?_, ?_⟩
  · intro hsame
    have hle := heq.mp hsame ("tcp", Counter.limit + 1) (by decide)
    exact absurd hle (by decide)
  · exact (hget "tcp").trans rfl
  · exact (hget "udp").trans rfl

end Snapshot
end TunnelBoard
