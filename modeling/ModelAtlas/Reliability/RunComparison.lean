import Mathlib.Data.Rat.Floor
import Mathlib.Data.Set.Finite.List
import Mathlib.Order.Preorder.Finite

/-!
# Comparing runs by their reliability

`compare_runtime_reliability_runs` of `services/runtime_reliability.py`, over the
summaries of two runs, with floats as exact numbers.
-/

namespace ModelAtlas.Reliability

/-- The summary of a run, with the metrics that a comparison reads. -/
structure ReliabilitySummary where
  trialCount : Nat
  successRate : Option Rat
  timeoutRate : Option Rat
  oomRate : Option Rat
  p99EndToEndLatencyMs : Option Rat
  latencyVariationCoefficient : Option Rat
  meanTokensPerSecond : Option Rat

inductive ComparisonWinner where
  | left
  | right
  | tie
  | insufficientEvidence
  deriving DecidableEq

structure RankedMetric where
  key : String
  value : ReliabilitySummary → Option Rat
  higher : Bool
  reason : String

/-- `round(value, 4)` of a value that is not negative: a half goes to the even digit. -/
def roundMagnitude (value : Rat) : Rat :=
  let units := ⌊value * 10000⌋
  let rest := value * 10000 - units
  if rest < 1 / 2 ∨ rest = 1 / 2 ∧ units % 2 = 0 then units / 10000 else (units + 1) / 10000

def roundDelta (value : Rat) : Rat :=
  if value < 0 then -roundMagnitude (-value) else roundMagnitude value

def delta (right left : Option Rat) : Option Rat :=
  match right, left with
  | some rightValue, some leftValue => some (roundDelta (rightValue - leftValue))
  | _, _ => none

def ComparisonWinner.swap : ComparisonWinner → ComparisonWinner
  | .left => .right
  | .right => .left
  | winner => winner

def RankedMetric.score (metric : RankedMetric) (run : ReliabilitySummary) : WithBot Rat :=
  match metric.value run with
  | none => ⊥
  | some value => ((if metric.higher then value else -value : Rat) : WithBot Rat)

end ModelAtlas.Reliability
