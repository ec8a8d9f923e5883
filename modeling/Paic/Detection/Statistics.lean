import Paic.Lib.Checks
import Paic.Lib.Median
import Paic.Lib.Sorted
import Mathlib

/-!
# Statistics of the anomaly detector

Location and scale of a baseline, predictive p-values for each kind of metric,
the Benjamini-Hochberg adjustment and the evidence score.
-/

namespace Paic.Detection

open Checks (raiseIf need)
open Sorted (byKey)

inductive Error where
  | valueError (message : String)
  | keyError (key : String)
  | typeError (message : String)
  | buildError (message : String)
  /-- polars has no rows to infer the columns of a table from. -/
  | noDataError (message : String)
  deriving DecidableEq, Repr

-- ---------------------------------------------------------------------------
-- The metric registry
-- ---------------------------------------------------------------------------

inductive Calculation where
  | count | sum | distinctCount | ratio | ratioOfSums | mean | quantile
  deriving DecidableEq, Repr

inductive MetricType where
  | count | currency | ratio | duration | units | score
  deriving DecidableEq, Repr

/-- What the detector reads of a metric's definition. -/
structure MetricDefinition where
  name : String
  calculation : Calculation
  metricType : MetricType
  expectedMin : Option Rat
  expectedMax : Option Rat
  deriving DecidableEq, Repr

/-- The double nearest to `1.2`. -/
def rowRetentionMax : Rat := 5404319552844595 / 2 ^ 52

/-- `METRIC_DEFINITIONS` -/
def metricDefinitions : List MetricDefinition :=
  [⟨"checkout_sessions", .count, .count, some 0, none⟩,
    ⟨"unique_checkout_customers", .distinctCount, .count, some 0, none⟩,
    ⟨"address_submission_rate", .ratio, .ratio, some 0, some 1⟩,
    ⟨"inventory_check_rate", .ratio, .ratio, some 0, some 1⟩,
    ⟨"payment_reach_rate", .ratio, .ratio, some 0, some 1⟩,
    ⟨"checkout_conversion_rate", .ratio, .ratio, some 0, some 1⟩,
    ⟨"payment_attempts", .count, .count, some 0, none⟩,
    ⟨"payment_approval_rate", .ratio, .ratio, some 0, some 1⟩,
    ⟨"payment_decline_rate", .ratio, .ratio, some 0, some 1⟩,
    ⟨"risk_rejection_rate", .ratio, .ratio, some 0, some 1⟩,
    ⟨"payment_latency_p50_ms", .quantile, .duration, some 0, none⟩,
    ⟨"payment_latency_p95_ms", .quantile, .duration, some 0, none⟩,
    ⟨"completed_orders", .count, .count, some 0, none⟩,
    ⟨"gross_order_value", .sum, .currency, some 0, none⟩,
    ⟨"average_order_value", .mean, .currency, some 0, none⟩,
    ⟨"average_items_per_order", .mean, .units, some 1, none⟩,
    ⟨"discount_share", .ratioOfSums, .ratio, some 0, some 1⟩,
    ⟨"returned_order_rate", .ratio, .ratio, some 0, some 1⟩,
    ⟨"units_sold", .sum, .units, some 0, none⟩,
    ⟨"item_revenue", .sum, .currency, some 0, none⟩,
    ⟨"inventory_exact_match_rate", .ratio, .ratio, some 0, some 1⟩,
    ⟨"out_of_stock_rate", .ratio, .ratio, some 0, some 1⟩,
    ⟨"low_stock_rate", .ratio, .ratio, some 0, some 1⟩,
    ⟨"mean_inventory_gap_units", .mean, .units, some 0, none⟩,
    ⟨"shipments", .count, .count, some 0, none⟩,
    ⟨"on_time_delivery_rate", .ratio, .ratio, some 0, some 1⟩,
    ⟨"late_delivery_rate", .ratio, .ratio, some 0, some 1⟩,
    ⟨"delivery_duration_p50_hours", .quantile, .duration, some 0, none⟩,
    ⟨"delivery_duration_p95_hours", .quantile, .duration, some 0, none⟩,
    ⟨"scan_ingestion_lag_p95_seconds", .quantile, .duration, some 0, none⟩,
    ⟨"return_requests", .count, .count, some 0, none⟩,
    ⟨"return_completion_rate", .ratio, .ratio, some 0, some 1⟩,
    ⟨"refund_completion_rate", .ratio, .ratio, some 0, some 1⟩,
    ⟨"refund_processing_p50_hours", .quantile, .duration, some 0, none⟩,
    ⟨"feed_success_rate", .ratio, .ratio, some 0, some 1⟩,
    ⟨"feed_rejection_rate", .ratioOfSums, .ratio, some 0, some 1⟩,
    ⟨"feed_latency_p95_seconds", .quantile, .duration, some 0, none⟩,
    ⟨"pipeline_success_rate", .ratio, .ratio, some 0, some 1⟩,
    ⟨"pipeline_quality_pass_rate", .ratio, .ratio, some 0, some 1⟩,
    ⟨"pipeline_row_retention_rate", .ratioOfSums, .ratio, some 0, some rowRetentionMax⟩,
    ⟨"pipeline_duration_p95_seconds", .quantile, .duration, some 0, none⟩,
    ⟨"deployment_count", .count, .count, some 0, none⟩,
    ⟨"deployment_success_rate", .ratio, .ratio, some 0, some 1⟩]

/-- `METRIC_REGISTRY[name]` -/
def metricDefinition (name : String) : Except Error MetricDefinition :=
  need (metricDefinitions.find? fun d => d.name = name) (.keyError name)

-- ---------------------------------------------------------------------------
-- Floating-point numbers
-- ---------------------------------------------------------------------------

/-- The operations on floating-point numbers that round, and what is taken
from numpy and scipy: sum, mean, variance and deviation with `ddof=1`,
quantiles, the upper tail of Student's distribution and three probability
mass functions. Comparisons, `abs`, `min`, `max`, `round` and `ceil` are those
of the numbers themselves. -/
class DetectionMath where
  add : Rat → Rat → Rat
  sub : Rat → Rat → Rat
  mul : Rat → Rat → Rat
  div : Rat → Rat → Rat
  sqrt : Rat → Rat
  log : Rat → Rat
  log10 : Rat → Rat
  log1p : Rat → Rat
  /-- `sum` of floats -/
  sum : List Rat → Rat
  /-- `ndarray.sum` -/
  npSum : List Rat → Rat
  mean : List Rat → Rat
  variance : List Rat → Rat
  std : List Rat → Rat
  quantile : List Rat → Rat → Rat
  tSf : Rat → Int → Rat
  betabinomPmf : Nat → Nat → Rat → Rat → Rat
  nbinomPmf : Nat → Rat → Rat → Rat
  poissonPmf : Nat → Rat → Rat

section
variable [DetectionMath]

open DetectionMath (add sub mul div sqrt log10 log1p npSum mean variance std quantile tSf
  betabinomPmf nbinomPmf poissonPmf)

/-- `_EPSILON`, the double nearest to `1e-12`. -/
def epsilon : Rat := 4951760157141521 / 2 ^ 92

/-- The doubles nearest to the constants that are not fractions of powers of
two. -/
def oneMillionth : Rat := 4722366482869645 / 2 ^ 72
def oneBillionth : Rat := 4835703278458517 / 2 ^ 82
def pmfTolerance : Rat := 2535301200456459 / 2 ^ 101
def oneHundredth : Rat := 5764607523034235 / 2 ^ 59
def oneTwentieth : Rat := 3602879701896397 / 2 ^ 56
def threeTwentieths : Rat := 5404319552844595 / 2 ^ 55
def oneFifth : Rat := 3602879701896397 / 2 ^ 54

def clamp (value low high : Rat) : Rat := min (max value low) high

/-- Python's `round`: to the nearest integer, of two equally near ones to the
even one. -/
def pyRound (q : Rat) : Int :=
  let low := ⌊q⌋
  if q - low < 1 / 2 then low
  else if 1 / 2 < q - low then low + 1
  else if low % 2 = 0 then low else low + 1

/-- `np.median` -/
def median (values : List Rat) : Except Error Rat :=
  need (Median.middle (fun a b => div (add a b) 2) values) (.valueError "median of no values")

/-- `robust_location_scale` -/
def robustLocationScale (values : List Rat) (minimumScale relativeScaleFloor : Rat) :
    Except Error (Rat × Rat) := do
  raiseIf (values = []) (.valueError "robust baseline requires at least one finite value")
  let location ← median values
  let mad ← median (values.map fun value => |sub value location|)
  let scale := mul (6677036807539497 / 2 ^ 52) mad
  let scale := if scale ≤ epsilon ∧ 4 ≤ values.length then
    div (sub (quantile values (3 / 4)) (quantile values (1 / 4))) (6075355897322799 / 2 ^ 52)
    else scale
  let scale := if scale ≤ epsilon ∧ 2 ≤ values.length then std values else scale
  let floor := max minimumScale (mul |location| relativeScaleFloor)
  pure (location, max scale floor)

/-- `robust_interval` with its default multiplier. -/
def robustInterval (location scale : Rat) (metric : MetricDefinition) : Rat × Rat :=
  let lower := sub location (mul (5 / 2) scale)
  let upper := add location (mul (5 / 2) scale)
  (match metric.expectedMin with
    | some low => max lower low
    | none => lower,
    match metric.expectedMax with
    | some high => min upper high
    | none => upper)

/-- `student_t_two_sided_p` -/
def studentTTwoSidedP (zScore : Rat) (degreesOfFreedom : Int) : Rat :=
  clamp (mul 2 (tSf |zScore| (max degreesOfFreedom 1))) 0 1

/-- The probability of everything in the support that is no likelier than what
was observed. -/
def tailProbability (probabilities : List Rat) (observed : Rat) : Rat :=
  clamp (npSum (probabilities.filter (· ≤ add observed pmfTolerance))) 0 1

/-- The concentration of the beta prior. -/
def priorConcentration (valid : List (Rat × Rat)) (totalTrials meanProbability : Rat) : Rat :=
  let rates := valid.map fun item => div item.1 item.2
  let trials := valid.map Prod.snd
  let weights := trials.map fun n => div n (npSum trials)
  let observedVariance := npSum <| (weights.zip rates).map fun p =>
    mul p.1 (mul (sub p.2 meanProbability) (sub p.2 meanProbability))
  let samplingVariance := npSum <| (weights.zip trials).map fun p =>
    div (mul (mul p.1 meanProbability) (sub 1 meanProbability)) p.2
  let excessVariance := max (sub observedVariance samplingVariance) 0
  let probabilityVariance := mul meanProbability (sub 1 meanProbability)
  let concentration :=
    if epsilon < excessVariance ∧ epsilon < probabilityVariance then
      sub (div 1 (clamp (div excessVariance probabilityVariance) oneMillionth (1 / 2))) 1
    else add totalTrials 1
  clamp concentration 2 200

/-- `beta_binomial_predictive_two_sided_p` -/
def betaBinomialPredictiveTwoSidedP (successes trials : Rat)
    (historySuccesses historyTrials : List Rat) : Rat :=
  let n := pyRound trials
  let k := pyRound successes
  if n ≤ 0 ∨ k < 0 ∨ n < k then 1
  else
    let valid := (historySuccesses.zip historyTrials).filter fun (hK, hN) =>
      0 < hN ∧ 0 ≤ hK ∧ hK ≤ hN
    if valid = [] then 1
    else
      let totalSuccesses := DetectionMath.sum (valid.map Prod.fst)
      let totalTrials := DetectionMath.sum (valid.map Prod.snd)
      let meanProbability := clamp (div (add totalSuccesses (1 / 2)) (add totalTrials 1))
        oneMillionth (9007190247541737 / 2 ^ 53)
      let concentration := priorConcentration valid totalTrials meanProbability
      let alpha := max (mul meanProbability concentration) (1 / 2)
      let beta := max (mul (sub 1 meanProbability) concentration) (1 / 2)
      let pmf := fun x => betabinomPmf x n.toNat alpha beta
      tailProbability ((List.range (n.toNat + 1)).map pmf) (pmf k.toNat)

/-- The name of a distribution and its predictive p-value. -/
structure Predictive where
  distributionName : String
  pValue : Rat
  deriving DecidableEq, Repr

/-- `count_predictive_p_value` -/
def countPredictivePValue (observed : Rat) (history : List Rat) : Predictive :=
  if history = [] ∨ observed < 0 then ⟨"count-unavailable", 1⟩
  else
    let mean := mean history
    let variance := if 2 ≤ history.length then variance history else mean
    let x := (pyRound observed).toNat
    if mean ≤ epsilon then ⟨"degenerate-count", if x = 0 then 1 else 0⟩
    else if add mean (max oneBillionth (mul oneTwentieth mean)) < variance then
      let shape := div (mul mean mean) (sub variance mean)
      let probability := div shape (add shape mean)
      let last := max x (Int.toNat ⌈add mean (mul 10 (sqrt variance))⌉)
      let pmf := fun x => nbinomPmf x shape probability
      ⟨"negative-binomial", tailProbability ((List.range (last + 1)).map pmf) (pmf x)⟩
    else
      let last := max x (Int.toNat ⌈add mean (mul 10 (sqrt mean))⌉)
      let pmf := fun x => poissonPmf x mean
      ⟨"poisson", tailProbability ((List.range (last + 1)).map pmf) (pmf x)⟩

/-- `log_student_t_predictive_p` -/
def logStudentTPredictiveP (observed : Rat) (history : List Rat) : Except Error Rat :=
  if observed < 0 then pure 1
  else
    let transformed := (history.filter (0 ≤ ·)).map log1p
    if transformed = [] then pure 1
    else do
      let (location, scale) ← robustLocationScale transformed oneMillionth oneHundredth
      let zScore := div (sub (log1p observed) location) scale
      pure (studentTTwoSidedP zScore (transformed.length - 1))

/-- `distribution_p_value` -/
def distributionPValue (definition : MetricDefinition) (observed : Rat)
    (numerator denominator : Option Rat) (robustZ : Rat)
    (historyValues historyNumerators historyDenominators : List Rat) : Except Error Predictive :=
  match decide (definition.metricType = .ratio), numerator, denominator with
  | true, some numerator, some denominator =>
    pure ⟨"empirical-beta-binomial", betaBinomialPredictiveTwoSidedP numerator denominator
      historyNumerators historyDenominators⟩
  | _, _, _ =>
    if definition.metricType = .count ∧
        (definition.calculation = .count ∨ definition.calculation = .distinctCount) then
      pure (countPredictivePValue observed historyValues)
    else if definition.metricType = .currency ∨ definition.metricType = .duration then do
      let pValue ← logStudentTPredictiveP observed historyValues
      pure ⟨"robust-log-student-t", pValue⟩
    else pure ⟨"robust-student-t", studentTTwoSidedP robustZ (historyValues.length - 1)⟩

-- ---------------------------------------------------------------------------
-- The adjustment of p-values
-- ---------------------------------------------------------------------------

/-- `sorted(range(count), key=lambda index: (cleaned[index], index))` -/
def pValueOrder (cleaned : List Rat) : List Nat :=
  byKey (fun i => toLex (cleaned.getD i 1, i)) (List.range cleaned.length)

/-- One pass of the loop, with the running minimum and the adjusted values. -/
def adjustPass (cleaned : List Rat) (state : Rat × List Rat) (entry : Nat × Nat) :
    Rat × List Rat :=
  let (index, reverseRank) := entry
  let rank := cleaned.length - reverseRank + 1
  let value := cleaned.getD index 1
  let running := min state.1 (div (mul value cleaned.length) rank)
  (running, state.2.set index (min (max running value) 1))

/-- `benjamini_hochberg` -/
def benjaminiHochberg (pValues : List Rat) : List Rat :=
  let cleaned := pValues.map fun value => clamp value 0 1
  (((pValueOrder cleaned).reverse.zipIdx 1).foldl (adjustPass cleaned)
    (1, List.replicate pValues.length 1)).2

-- ---------------------------------------------------------------------------
-- Scores
-- ---------------------------------------------------------------------------

inductive Severity where
  | none | low | medium | high | critical
  deriving DecidableEq, Repr

/-- What `evidence_score` weighs. -/
structure Evidence where
  robustZ : Option Rat
  qValue : Option Rat
  cusumScore : Rat
  cusumThreshold : Rat
  sequentialLogLikelihood : Rat
  sequentialThreshold : Rat
  relativeChange : Option Rat
  minimumRelativeEffect : Rat

/-- `evidence_score` -/
def evidenceScore (e : Evidence) : Rat :=
  let zComponent := min (div |e.robustZ.getD 0| 6) 1
  let qComponent := match e.qValue with
    | .none => 0
    | .some q => clamp (div (-log10 (max q epsilon)) 6) 0 1
  let cusumComponent := min (div e.cusumScore (max e.cusumThreshold epsilon)) 1
  let sequentialComponent :=
    min (div e.sequentialLogLikelihood (max e.sequentialThreshold epsilon)) 1
  let magnitudeComponent :=
    min (div |e.relativeChange.getD 0| (max (mul e.minimumRelativeEffect 3) oneHundredth)) 1
  let total := add (add (add (add (mul (1 / 4) zComponent) (mul (1 / 4) qComponent))
    (mul oneFifth cusumComponent)) (mul threeTwentieths sequentialComponent))
    (mul threeTwentieths magnitudeComponent)
  clamp total 0 1

/-- `severity_from_score` -/
def severityFromScore (score : Rat) (supportCount : Nat) : Severity :=
  if 7656119366529843 / 2 ^ 53 ≤ score ∧ 3 ≤ supportCount then .critical
  else if 5854679515581645 / 2 ^ 53 ≤ score ∧ 2 ≤ supportCount then .high
  else if 3602879701896397 / 2 ^ 53 ≤ score then .medium
  else .low

end

end Paic.Detection
