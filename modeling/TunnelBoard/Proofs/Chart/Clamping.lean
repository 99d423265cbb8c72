import TunnelBoard.Proofs.Chart.Slices
import TunnelBoard.Proofs.Value.Equality

/-!
# Clamped counters

The values of a traffic chart may be of any kind.  Each is drawn as the counter
it is taken for, and is logged if it is not equal to that counter.  The one kind
of value that there is no chart of is a signaling NaN: it is taken for zero, but
it must not be compared with zero.
-/

namespace TunnelBoard
namespace Chart

/-!
# Comparison with a counter
-/

theorem equalsCounter_of_rational? {v : Value} {x : ℚ} (h : v.rational? = some x) (n : Nat) :
    equalsCounter v n = .ok (decide (x = n)) := by
  rcases Value.amount?_of_rational? h with ⟨negative, c, e, hamount, hvalue⟩
  rw [equalsCounter, hamount]
  show Except.ok _ = _
  rw [Value.equals_ofInt, hvalue, Int.cast_natCast]

theorem equalsCounter_of_signaling {v : Value} (h : v.isSignaling = true) (n : Nat) :
    equalsCounter v n = .error .signaling := by
  cases v with
  | decimal d =>
      cases d with
      | nan negative signaling payload =>
          cases h
          rfl
      | _ => cases h
  | _ => cases h

theorem equalsCounter_of_no_number {v : Value} (hsignaling : v.isSignaling = false)
    (hnumber : v.rational? = none) (n : Nat) : equalsCounter v n = .ok false := by
  cases v with
  | float y =>
      cases y with
      | finite negative units unit => cases hnumber
      | _ => rfl
  | decimal d =>
      cases d with
      | finite negative coefficient exponent => cases hnumber
      | infinite negative => rfl
      | nan negative signaling payload =>
          cases hsignaling
          rfl
  | bool b => cases hnumber
  | int m => cases hnumber
  | _ => rfl

/-- A value that can be compared is equal to the counters that are the number it denotes. -/
theorem equalsCounter_eq (v : Value) (n : Nat) :
    equalsCounter v n =
      if v.isSignaling then .error .signaling else .ok (decide (v.rational? = some (n : ℚ))) := by
  cases hsignaling : v.isSignaling with
  | true => exact equalsCounter_of_signaling hsignaling n
  | false =>
      cases hnumber : v.rational? with
      | none => exact equalsCounter_of_no_number hsignaling hnumber n
      | some x =>
          rw [equalsCounter_of_rational? hnumber n]
          exact congrArg Except.ok (decide_eq_decide.mpr Option.some_inj.symm)

/-!
# Clamping
-/

/-- The records of the value of a direction: one if the value is not equal to its counter. -/
def clampRecords (direction : Direction) (v : Value) : List Log.Record :=
  let n := Counter.ofValue v
  if v.rational? = some (n : ℚ) then []
  else
    let message :=
      "Clamped " ++ direction.field ++ "=" ++ v.quoted ++ " to " ++ Text.ofNat n
    [⟨.debug, .charts, message⟩]

theorem clamp_eq (direction : Direction) (v : Value) :
    clamp direction v =
      if v.isSignaling then .error .signaling
      else .ok (Counter.ofValue v, clampRecords direction v) := by
  unfold clamp clampRecords
  simp only [equalsCounter_eq]
  cases v.isSignaling with
  | true => rfl
  | false =>
      show (if decide (v.rational? = some (Counter.ofValue v : ℚ)) then _ else _) = Except.ok _
      by_cases hequal : v.rational? = some (Counter.ofValue v : ℚ)
      · rw [if_pos hequal, if_pos (decide_eq_true hequal)]
        rfl
      · rw [if_neg hequal, if_neg (by simpa using hequal)]
        rfl

theorem traffic_eq (ingress egress : Value) (textColor : Text) (style : Style)
    (size : SizeFormat) :
    traffic ingress egress textColor style size =
      if ingress.isSignaling || egress.isSignaling then .error .signaling
      else
        .ok (ofTraffic (Counter.ofValue ingress) (Counter.ofValue egress) textColor style size,
          clampRecords .ingress ingress ++ clampRecords .egress egress) := by
  rw [traffic, clamp_eq, clamp_eq]
  cases ingress.isSignaling with
  | true => rfl
  | false =>
      cases egress.isSignaling with
      | true => rfl
      | false => rfl

theorem traffic_int (ingress egress : Int) (textColor : Text) (style : Style)
    (size : SizeFormat) :
    ∃ records, traffic (.int ingress) (.int egress) textColor style size =
      .ok (ofTraffic (Counter.ofInt ingress) (Counter.ofInt egress) textColor style size,
        records) :=
  ⟨_, traffic_eq (.int ingress) (.int egress) textColor style size⟩

theorem fst_of_traffic_eq_ok {ingress egress : Value} {textColor : Text} {style : Style}
    {size : SizeFormat} {chart : Chart} {records : List Log.Record}
    (h : traffic ingress egress textColor style size = .ok (chart, records)) :
    chart =
      ofTraffic (Counter.ofValue ingress) (Counter.ofValue egress) textColor style size := by
  rw [traffic_eq] at h
  split at h
  · cases h
  · cases h
    rfl

/-- There is a chart of two values if and only if both can be compared.  It always has the two
slices, and one record for each value that is not equal to its counter. -/
theorem traffic_clamps (ingress egress : Value) (textColor : Text) (style : Style)
    (size : SizeFormat) :
    if ingress.isSignaling || egress.isSignaling then
      traffic ingress egress textColor style size = .error .signaling
    else
      ∃ chart,
        traffic ingress egress textColor style size =
            .ok (chart, clampRecords .ingress ingress ++ clampRecords .egress egress) ∧
          chart.slices =
            [⟨"ingress traffic", Counter.ofValue ingress, Palette.ingress⟩,
              ⟨"egress traffic", Counter.ofValue egress, Palette.egress⟩] ∧
          chart.total = Counter.ofValue ingress + Counter.ofValue egress := by
  rw [traffic_eq]
  split
  · rfl
  · exact ⟨_, rfl, rfl, sum_slices_ofTraffic _ _ textColor style size⟩

example : traffic (.decimal (.nan false true 0)) (.int 0) "#333" Style.rich .humanized =
    .error .signaling := rfl

end Chart
end TunnelBoard
