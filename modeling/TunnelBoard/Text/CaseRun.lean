import TunnelBoard.Text.Basic

/-!
# Runs of case pairs

Capital and small letters come in runs: either every code point of a range or
every other one has its partner at a fixed distance.  A case mapping is a
sorted list of such runs.
-/

namespace TunnelBoard
namespace Text

/-- Every `step`-th code point from `first` to `last`, with partners from `target` on. -/
structure CaseRun where
  first : Nat
  last : Nat
  step : Nat
  target : Nat
deriving DecidableEq, Repr

namespace CaseRun

/-- Whether the run maps a number. -/
def covers (run : CaseRun) (n : Nat) : Bool :=
  run.first ≤ n && n ≤ run.last && (n - run.first) % run.step = 0

/-- The number the first run that covers `n` maps it to, and `n` itself if none does. -/
def apply (runs : List CaseRun) (n : Nat) : Nat :=
  match runs.find? (·.covers n) with
  | some run => run.target + (n - run.first)
  | none => n

end CaseRun

end Text
end TunnelBoard
