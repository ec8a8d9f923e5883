import Paic.Lib.Median
import Paic.Lib.Sorted
import Paic.Recovery.Engine
import Mathlib

/-!
# The evaluation of one metric

`_evaluate_metric` compares a window before the execution with one after it:
two medians, an equivalence test, the share of values in the band, the slope
of the distances. Which observations are in the windows is settled first;
after that only their values are read.
-/

namespace Paic.Recovery

open Checks (raiseIf need bind_eq_ok raiseIf_ok need_ok pure_eq_ok)
open Sorted (byKey last)

/-- The operations on floating-point numbers that round, and what is taken
from numpy and scipy: the mean, the variance with `ddof=1`, the two tails of
Student's distribution, which may be not a number, and the slope of
`theilslopes`. Comparisons, `abs`, `min` and `max` are those of the numbers
themselves. -/
class RecoveryMath where
  add : Rat → Rat → Rat
  sub : Rat → Rat → Rat
  mul : Rat → Rat → Rat
  div : Rat → Rat → Rat
  square : Rat → Rat
  sqrt : Rat → Rat
  mean : List Rat → Rat
  variance : List Rat → Rat
  tSf : Rat → Rat → Option Rat
  tCdf : Rat → Rat → Option Rat
  theilslopes : List Rat → List Rat → Rat

-- ---------------------------------------------------------------------------
-- Statistics
-- ---------------------------------------------------------------------------

section
variable [RecoveryMath]

open RecoveryMath (add sub mul div square sqrt mean variance tSf tCdf theilslopes)

/-- `statistics.median` -/
def median (values : List Rat) : Except Error Rat :=
  need (Median.middle (fun a b => div (add a b) 2) values) .valueError

/-- The double nearest to `1.4826`. -/
def madScale : Rat := 6677036807539497 / 4503599627370496

/-- `robust_center_scale` -/
def robustCenterScale (values : List Rat) (floor : Rat) : Except Error (Rat × Rat) := do
  raiseIf (values = []) .valueError
  let center ← median values
  let deviations := values.map fun value => |sub value center|
  let deviation ← median deviations
  let scale := max (mul deviation madScale) floor
  pure (center, scale)

structure EquivalenceResult where
  equivalent : Bool
  pvalue : Rat
  difference : Rat
  deriving DecidableEq, Repr

/-- `max` of two numbers that may be not a number: it keeps the first unless
the second is greater. -/
def maxFloat : Option Rat → Option Rat → Option Rat
  | some a, some b => some (max a b)
  | some a, none => some a
  | none, _ => none

/-- `welch_tost` -/
def welchTost (baseline candidate : List Rat) (margin alpha : Rat) :
    Except Error EquivalenceResult := do
  raiseIf (baseline.length < 2 ∨ candidate.length < 2) .valueError
  raiseIf (margin ≤ 0) .valueError
  let n := baseline.length
  let m := candidate.length
  let difference := sub (mean candidate) (mean baseline)
  let leftVar := variance baseline
  let rightVar := variance candidate
  let total := add (div leftVar n) (div rightVar m)
  if total ≤ 0 then
    let equivalent := decide (|difference| ≤ margin)
    pure ⟨equivalent, if equivalent then 0 else 1, difference⟩
  else
    let standardError := sqrt total
    let numerator := mul total total
    let denominator := add (div (square (div leftVar n)) ((n : Rat) - 1))
      (div (square (div rightVar m)) ((m : Rat) - 1))
    let degrees := if 0 < denominator then div numerator denominator else (min n m : Rat) - 1
    let lowerT := div (add difference margin) standardError
    let upperT := div (sub difference margin) standardError
    let pvalue := (maxFloat (tSf lowerT degrees) (tCdf upperT degrees)).getD 1
    pure ⟨decide (pvalue < alpha), min (max pvalue 0) 1, difference⟩

/-- `theil_sen_slope` -/
def theilSenSlope (values : List Rat) : Rat :=
  if values.length < 2 then 0 else theilslopes values ((List.range values.length).map Nat.cast)

/-- `_adverse` -/
def adverse (value baseline : Rat) (policy : RecoveryMetricPolicy) : Rat :=
  match policy.healthyDirection with
  | .higherIsBetter => max 0 (sub baseline value)
  | .lowerIsBetter => max 0 (sub value baseline)
  | .target => |sub value baseline|

end

-- ---------------------------------------------------------------------------
-- The windows
-- ---------------------------------------------------------------------------

def eligible (policy : RecoveryMetricPolicy) (observations : List RecoveryObservation) :
    List RecoveryObservation :=
  observations.filter fun o => policy.minimumSampleSize ≤ o.sampleSize

def inTimeOrder (observations : List RecoveryObservation) : List RecoveryObservation :=
  byKey (fun o => o.observedAt.instant) observations

/-- `baseline_obs` -/
def baselineObs (policy : RecoveryMetricPolicy) (observations : List RecoveryObservation)
    (executedAt : Datetime) : List RecoveryObservation :=
  last policy.baselineLookbackPeriods <| inTimeOrder <|
    (eligible policy observations).filter fun o => o.observedAt.instant < executedAt.instant

/-- `post_obs` -/
def postObs (policy : RecoveryMetricPolicy) (observations : List RecoveryObservation)
    (executedAt evaluatedAt : Datetime) : List RecoveryObservation :=
  inTimeOrder <| (eligible policy observations).filter fun o =>
    executedAt.instant ≤ o.observedAt.instant ∧ o.observedAt.instant ≤ evaluatedAt.instant

/-- What is missing for an evaluation. -/
def missing (policy : RecoveryMetricPolicy) (baseline post sustain : Nat) : List String :=
  (if baseline < policy.minimumBaselinePeriods then ["insufficient_baseline"] else []) ++
  (if post < policy.minimumPostPeriods then ["insufficient_post_window"] else []) ++
  if sustain < policy.sustainPeriods then ["insufficient_sustain_window"] else []

/-- The evaluation that says what is missing. -/
def insufficient (policy : RecoveryMetricPolicy) (baseline post sustain : Nat)
    (reasonCodes : List String) : RecoveryMetricEvaluation :=
  { metricId := policy.metricId
    cohort := policy.cohort
    role := policy.role
    healthyDirection := policy.healthyDirection
    status := .insufficientData
    baselineCount := baseline
    postCount := post
    sustainCount := sustain
    baselineCenter := none
    baselineScale := none
    latestCenter := none
    equivalenceMargin := none
    equivalencePvalue := none
    withinBandFraction := none
    latestRobustZ := none
    distanceSlope := none
    improvementFraction := none
    severeBreach := false
    reasonCodes }

-- ---------------------------------------------------------------------------
-- The evaluation
-- ---------------------------------------------------------------------------

/-- What decides the status. -/
structure Verdict where
  equivalent : Bool
  withinBand : Bool
  regression : Bool
  severe : Bool
  improved : Bool

namespace Verdict

def recovered (v : Verdict) : Bool := v.equivalent && v.withinBand && !v.regression && !v.severe

def status (v : Verdict) : MetricStatus :=
  if v.recovered then .recovered
  else if v.improved && !v.severe then .recovering
  else .failed

def reasonCodes (v : Verdict) (role : MetricRole) : List String :=
  let found :=
    (if v.equivalent then [] else ["not_statistically_equivalent"]) ++
    (if v.withinBand then [] else ["sustain_window_outside_band"]) ++
    (if v.regression then ["adverse_distance_trend"] else []) ++
    if v.severe then
      [if role = .guardrail then "severe_guardrail_breach" else "severe_primary_gap"]
    else []
  if v.recovered then ["statistically_recovered"]
  else if v.improved && !v.severe then found ++ ["meaningful_improvement"]
  else found ++ ["recovery_gate_failed"]

end Verdict

section
variable [RecoveryMath]

open RecoveryMath (add sub mul div)

/-- The margin around the centre of the baseline. -/
def bandMargin (policy : RecoveryMetricPolicy) (baselineCenter scaleFloor : Rat) : Rat :=
  max (max (mul |baselineCenter| policy.equivalenceMarginRelative)
    policy.equivalenceMarginAbsolute) scaleFloor

/-- How many of the values lie in the band. -/
def withinBand (values : List Rat) (baselineCenter margin : Rat) : Nat :=
  values.countP fun value => |sub value baselineCenter| ≤ margin

/-- The rest of `_evaluate_metric`, which reads only the values in the two
windows. -/
def evaluateWindows (policy : RecoveryMetricPolicy) (baselineValues postValues : List Rat)
    (alpha scaleFloor : Rat) : Except Error RecoveryMetricEvaluation := do
  let sustainValues := last policy.sustainPeriods postValues
  let baseline := baselineValues.length
  let post := postValues.length
  let sustain := sustainValues.length
  let reasonCodes := missing policy baseline post sustain
  if reasonCodes ≠ [] then
    let evaluation := insufficient policy baseline post sustain reasonCodes
    raiseIf (¬ evaluation.Valid) .valueError
    pure evaluation
  else
    let (baselineCenter, baselineScale) ← robustCenterScale baselineValues scaleFloor
    let (latestCenter, _) ← robustCenterScale sustainValues scaleFloor
    let margin := bandMargin policy baselineCenter scaleFloor
    let equivalence ← welchTost baselineValues sustainValues margin alpha
    let withinFraction := div (withinBand sustainValues baselineCenter margin) sustain
    let latestZ := div (sub latestCenter baselineCenter) baselineScale
    let adverseDistances := postValues.map fun value => adverse value baselineCenter policy
    let distanceSlope := theilSenSlope adverseDistances
    let firstDistance ← need adverseDistances.head? .valueError
    let latestDistance := adverse latestCenter baselineCenter policy
    let improvement := div (sub firstDistance latestDistance)
      (max (max firstDistance margin) scaleFloor)
    let verdict : Verdict :=
      { equivalent := equivalence.equivalent
        withinBand := decide (policy.minimumWithinBandFraction ≤ withinFraction)
        regression := decide (div margin (max policy.sustainPeriods 1 : Nat) < distanceSlope)
        severe := decide (mul policy.severeRobustZ baselineScale < latestDistance)
        improved := decide (policy.minimumImprovementFraction ≤ improvement) }
    let evaluation : RecoveryMetricEvaluation :=
      { metricId := policy.metricId
        cohort := policy.cohort
        role := policy.role
        healthyDirection := policy.healthyDirection
        status := verdict.status
        baselineCount := baseline
        postCount := post
        sustainCount := sustain
        baselineCenter := some baselineCenter
        baselineScale := some baselineScale
        latestCenter := some latestCenter
        equivalenceMargin := some margin
        equivalencePvalue := some equivalence.pvalue
        withinBandFraction := some withinFraction
        latestRobustZ := some latestZ
        distanceSlope := some distanceSlope
        improvementFraction := some improvement
        severeBreach := verdict.severe && policy.role = .guardrail
        reasonCodes := (verdict.reasonCodes policy.role).eraseDups }
    raiseIf (¬ evaluation.Valid) .valueError
    pure evaluation

/-- `_evaluate_metric` -/
def evaluateMetric (policy : RecoveryMetricPolicy) (observations : List RecoveryObservation)
    (executedAt evaluatedAt : Datetime) (alpha scaleFloor : Rat) :
    Except Error RecoveryMetricEvaluation :=
  evaluateWindows policy
    ((baselineObs policy observations executedAt).map RecoveryObservation.value)
    ((postObs policy observations executedAt evaluatedAt).map RecoveryObservation.value)
    alpha scaleFloor

/-- What `evaluate_recovery` gets from `_evaluate_metric`. For the policies of
a valid configuration it never raises: `evaluateMetric_returns`. -/
def metricEvaluator : MetricEvaluator :=
  fun policy observations executedAt evaluatedAt alpha scaleFloor =>
    match evaluateMetric policy observations executedAt evaluatedAt alpha scaleFloor with
    | .ok evaluation => evaluation
    | .error _ => insufficient policy 0 0 0 []

-- ---------------------------------------------------------------------------
-- What an evaluation is made of
-- ---------------------------------------------------------------------------

omit [RecoveryMath] in
theorem missing_eq_nil : missing policy baseline post sustain = [] ↔
    policy.minimumBaselinePeriods ≤ baseline ∧ policy.minimumPostPeriods ≤ post ∧
      policy.sustainPeriods ≤ sustain := by
  simp only [missing, List.append_eq_nil_iff, ite_eq_right_iff, List.cons_ne_nil, imp_false,
    Nat.not_lt, and_assoc]

/-- The numbers a metric is judged by. -/
structure Judged (policy : RecoveryMetricPolicy) (baselineValues postValues : List Rat)
    (alpha scaleFloor : Rat) (verdict : Verdict) (center scale latest fraction slope : Rat) :
    Prop where
  enough : missing policy baselineValues.length postValues.length
    (last policy.sustainPeriods postValues).length = []
  baseline : robustCenterScale baselineValues scaleFloor = .ok (center, scale)
  sustained : ∃ latestScale,
    robustCenterScale (last policy.sustainPeriods postValues) scaleFloor = .ok (latest, latestScale)
  tested : ∃ result, welchTost baselineValues (last policy.sustainPeriods postValues)
    (bandMargin policy center scaleFloor) alpha = .ok result
  share : fraction = div
    (withinBand (last policy.sustainPeriods postValues) center (bandMargin policy center scaleFloor))
    (last policy.sustainPeriods postValues).length
  trend : slope = theilSenSlope (postValues.map fun value => adverse value center policy)
  withinBand : verdict.withinBand = decide (policy.minimumWithinBandFraction ≤ fraction)
  severe : verdict.severe =
    decide (mul policy.severeRobustZ scale < adverse latest center policy)

/-- What a returned evaluation says: what is missing, or what the metric was
judged by. -/
theorem evaluateWindows_ok
    (h : evaluateWindows policy baselineValues postValues alpha scaleFloor = .ok e) :
    e.metricId = policy.metricId ∧ e.cohort = policy.cohort ∧ e.role = policy.role ∧
      (e.status = .insufficientData ∧ e.severeBreach = false ∨
      ∃ verdict center scale latest fraction slope,
        Judged policy baselineValues postValues alpha scaleFloor verdict center scale latest
          fraction slope ∧
        e.status = verdict.status ∧ e.baselineCenter = some center ∧ e.baselineScale = some scale ∧
        e.latestCenter = some latest ∧
        e.equivalenceMargin = some (bandMargin policy center scaleFloor) ∧
        e.withinBandFraction = some fraction ∧ e.distanceSlope = some slope ∧
        e.severeBreach = (verdict.severe && policy.role = .guardrail) ∧
        e.reasonCodes = (verdict.reasonCodes policy.role).eraseDups) := by
  simp only [evaluateWindows] at h
  split at h
  · simp only [bind_eq_ok, raiseIf_ok, pure_eq_ok, exists_and_left, exists_const] at h
    obtain ⟨-, rfl⟩ := h
    exact ⟨rfl, rfl, rfl, .inl ⟨rfl, rfl⟩⟩
  · next hmissing =>
    simp only [bind_eq_ok, raiseIf_ok, need_ok, pure_eq_ok, exists_and_left, exists_const,
      Prod.exists] at h
    obtain ⟨center, scale, hbaseline, latest, latestScale, hlatest, result, htest, first, -, -,
      rfl⟩ := h
    exact ⟨rfl, rfl, rfl, .inr ⟨_, center, scale, latest, _, _,
      ⟨not_not.mp hmissing, hbaseline, ⟨latestScale, hlatest⟩, ⟨result, htest⟩, rfl, rfl, rfl, rfl⟩,
      rfl, rfl, rfl, rfl, rfl, rfl, rfl, rfl, rfl⟩⟩

-- ---------------------------------------------------------------------------
-- Exact arithmetic
-- ---------------------------------------------------------------------------

/-- The slopes between every two points, the second of which lies further. -/
def pairSlopes : List (Rat × Rat) → List Rat
  | [] => []
  | (x, y) :: rest =>
    (rest.filter fun p => x < p.1).map (fun p => (p.2 - y) / (p.1 - x)) ++ pairSlopes rest

/-- The midpoint of two numbers. -/
def midpoint (a b : Rat) : Rat := (a + b) / 2

/-- Nothing is rounded, and `theilslopes` is the median of the slopes between
the points. -/
structure Exact : Prop where
  add : ∀ a b : Rat, RecoveryMath.add a b = a + b
  sub : ∀ a b : Rat, RecoveryMath.sub a b = a - b
  mul : ∀ a b : Rat, RecoveryMath.mul a b = a * b
  div : ∀ a b : Rat, RecoveryMath.div a b = a / b
  theilslopes : ∀ ys xs slope, Median.middle midpoint (pairSlopes (xs.zip ys)) = some slope →
    RecoveryMath.theilslopes ys xs = slope

end

/-- Exact numbers. A square root is that of a square, and there are no tails. -/
@[reducible] def exactMath : RecoveryMath where
  add := (· + ·)
  sub := (· - ·)
  mul := (· * ·)
  div := (· / ·)
  square x := x * x
  sqrt := Rat.sqrt
  mean values := values.sum / values.length
  variance values :=
    let mean := values.sum / values.length
    (values.map fun x => (x - mean) * (x - mean)).sum / (values.length - 1)
  tSf _ _ := none
  tCdf _ _ := none
  theilslopes ys xs := (Median.middle midpoint (pairSlopes (xs.zip ys))).getD 0

theorem exactMath_exact : @Exact exactMath :=
  @Exact.mk exactMath (fun _ _ => rfl) (fun _ _ => rfl) (fun _ _ => rfl) (fun _ _ => rfl)
    fun ys xs slope h => by
      show (Median.middle midpoint (pairSlopes (xs.zip ys))).getD 0 = slope
      rw [h, Option.getD_some]

end Paic.Recovery
