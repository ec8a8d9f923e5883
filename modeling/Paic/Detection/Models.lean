import Paic.Detection.Statistics
import Paic.Json

/-!
# Configuration and tables of the anomaly detector

The detector reads a table of metric observations and writes a table of
detector observations. Its configuration has a baseline window for each grain,
two sequential detectors and an alert policy that single metrics override.
-/

namespace Paic.Detection

inductive TimeGrain where
  | hour | day
  deriving DecidableEq, Repr

def TimeGrain.text : TimeGrain → String
  | .hour => "hour"
  | .day => "day"

/-- A moment in UTC, in microseconds. -/
abbrev Instant := Int

/-- `period_delta` -/
def periodDelta : TimeGrain → Int
  | .hour => 3600000000
  | .day => 86400000000

-- ---------------------------------------------------------------------------
-- Configuration
-- ---------------------------------------------------------------------------

structure BaselineWindow where
  lookbackPeriods : Nat
  minimumHistory : Nat
  seasonalPeriods : Nat
  minimumSeasonalHistory : Nat
  minimumScale : Rat
  relativeScaleFloor : Rat
  deriving DecidableEq, Repr

structure BaselineWindow.Valid (w : BaselineWindow) : Prop where
  lookbackPeriods : 4 ≤ w.lookbackPeriods
  minimumHistory : 3 ≤ w.minimumHistory
  seasonalPeriods : 1 ≤ w.seasonalPeriods
  minimumSeasonalHistory : 2 ≤ w.minimumSeasonalHistory
  minimumScale : 0 < w.minimumScale
  relativeScaleFloor : 0 ≤ w.relativeScaleFloor
  history : w.minimumHistory ≤ w.lookbackPeriods
  seasonalHistory : w.minimumSeasonalHistory ≤ w.lookbackPeriods

structure BaselineConfig where
  hour : BaselineWindow
  day : BaselineWindow
  deriving DecidableEq, Repr

/-- `for_grain` -/
def BaselineConfig.forGrain (c : BaselineConfig) : TimeGrain → BaselineWindow
  | .hour => c.hour
  | .day => c.day

structure CusumConfig where
  enabled : Bool
  drift : Rat
  threshold : Rat
  deriving DecidableEq, Repr

structure SequentialConfig where
  enabled : Bool
  alpha : Rat
  alternativeStandardizedShift : Rat
  deriving DecidableEq, Repr

structure AlertPolicy where
  fdrAlpha : Rat
  robustZThreshold : Rat
  minimumDetectorSupport : Nat
  minimumRelativeEffect : Rat
  minimumAbsoluteEffect : Rat
  minimumSampleSize : Nat
  deriving DecidableEq, Repr

structure AlertPolicy.Valid (p : AlertPolicy) : Prop where
  fdrAlpha : 0 < p.fdrAlpha ∧ p.fdrAlpha < 1 / 2
  robustZThreshold : 0 < p.robustZThreshold
  minimumDetectorSupport : 1 ≤ p.minimumDetectorSupport ∧ p.minimumDetectorSupport ≤ 4
  minimumRelativeEffect : 0 ≤ p.minimumRelativeEffect
  minimumAbsoluteEffect : 0 ≤ p.minimumAbsoluteEffect
  minimumSampleSize : 1 ≤ p.minimumSampleSize

structure MetricPolicyOverride where
  metric : String
  robustZThreshold : Option Rat
  minimumDetectorSupport : Option Nat
  minimumRelativeEffect : Option Rat
  minimumAbsoluteEffect : Option Rat
  minimumSampleSize : Option Nat
  deriving DecidableEq, Repr

/-- `_policy_values`: the policy with what a metric overrides. -/
def policyValues (base : AlertPolicy) (override : Option MetricPolicyOverride) : AlertPolicy :=
  match override with
  | none => base
  | some o =>
    { base with
      robustZThreshold := o.robustZThreshold.getD base.robustZThreshold
      minimumDetectorSupport := o.minimumDetectorSupport.getD base.minimumDetectorSupport
      minimumRelativeEffect := o.minimumRelativeEffect.getD base.minimumRelativeEffect
      minimumAbsoluteEffect := o.minimumAbsoluteEffect.getD base.minimumAbsoluteEffect
      minimumSampleSize := o.minimumSampleSize.getD base.minimumSampleSize }

/-- The policy that an override leads to is valid by itself. -/
structure MetricPolicyOverride.Valid (o : MetricPolicyOverride) : Prop where
  metric : ∃ d, metricDefinition o.metric = .ok d
  robustZThreshold : ∀ x ∈ o.robustZThreshold, 0 < x
  minimumDetectorSupport : ∀ n ∈ o.minimumDetectorSupport, 1 ≤ n ∧ n ≤ 4
  minimumRelativeEffect : ∀ x ∈ o.minimumRelativeEffect, 0 ≤ x
  minimumAbsoluteEffect : ∀ x ∈ o.minimumAbsoluteEffect, 0 ≤ x
  minimumSampleSize : ∀ n ∈ o.minimumSampleSize, 1 ≤ n

/-- `DetectionConfig`, as far as the engine reads it. -/
structure DetectionConfig where
  baseline : BaselineConfig
  cusum : CusumConfig
  sequential : SequentialConfig
  alertPolicy : AlertPolicy
  metricOverrides : List MetricPolicyOverride
  deriving DecidableEq, Repr

structure DetectionConfig.Valid (c : DetectionConfig) : Prop where
  hour : c.baseline.hour.Valid
  day : c.baseline.day.Valid
  cusum : 0 < c.cusum.drift ∧ 0 < c.cusum.threshold
  sequential : 0 < c.sequential.alpha ∧ c.sequential.alpha < 1 / 2 ∧
    0 < c.sequential.alternativeStandardizedShift
  alertPolicy : c.alertPolicy.Valid
  metricOverrides : ∀ o ∈ c.metricOverrides, o.Valid
  unique : (c.metricOverrides.map (·.metric)).Nodup

/-- `_policy_values` of a metric. -/
def DetectionConfig.policyOf (c : DetectionConfig) (metric : String) : AlertPolicy :=
  policyValues c.alertPolicy (c.metricOverrides.find? fun o => o.metric = metric)

-- ---------------------------------------------------------------------------
-- The metric table
-- ---------------------------------------------------------------------------

/-- A row of the selected metrics. A number that is missing or not finite is
`none`. `dimensions` are the values of `ANALYTIC_DIMENSIONS` in their order. -/
structure MetricRow where
  seriesId : String
  metricName : String
  displayName : String
  domain : String
  metricType : String
  unit : String
  higherIsBetter : Option Bool
  timeGrain : TimeGrain
  periodStart : Instant
  periodEnd : Instant
  cohortName : String
  dimensionCount : Int
  dimensions : List (Option String)
  value : Option Rat
  numerator : Option Rat
  denominator : Option Rat
  sampleSize : Option Int
  qualityStatus : Option String
  scenarioId : Option String
  deriving DecidableEq, Repr

-- ---------------------------------------------------------------------------
-- The table of detector observations
-- ---------------------------------------------------------------------------

inductive Direction where
  | flat | increase | decrease
  deriving DecidableEq, Repr

inductive ImpactDirection where
  | neutral | improvement | degradation
  deriving DecidableEq, Repr

/-- A row of the table `detector_observations`. -/
structure Observation where
  observationId : String
  seriesId : String
  metricName : String
  displayName : String
  domain : String
  metricType : String
  unit : String
  higherIsBetter : Option Bool
  timeGrain : TimeGrain
  periodStart : Instant
  periodEnd : Instant
  cohortName : String
  dimensionCount : Int
  dimensions : List (Option String)
  observedValue : Option Rat
  expectedValue : Option Rat
  expectedLower : Option Rat
  expectedUpper : Option Rat
  numerator : Option Rat
  denominator : Option Rat
  sampleSize : Int
  baselinePoints : Nat
  seasonalPoints : Nat
  baselineMethod : String
  baselineLastPeriod : Option Instant
  robustScale : Option Rat
  residual : Option Rat
  absoluteChange : Option Rat
  relativeChange : Option Rat
  robustZ : Option Rat
  distributionName : String
  pValue : Option Rat
  qValue : Option Rat
  cusumScore : Rat
  changeDetected : Bool
  estimatedChangeStart : Option Instant
  sequentialLogLikelihood : Rat
  sequentialAlert : Bool
  supportRobustDeviation : Bool
  supportFdrSignificance : Bool
  supportCusum : Bool
  supportSequential : Bool
  detectorSupportCount : Nat
  sampleSizeGatePassed : Bool
  effectSizeGatePassed : Bool
  historyGatePassed : Bool
  alertReasonCodes : List String
  isEligible : Bool
  isAnomaly : Bool
  direction : Direction
  impactDirection : ImpactDirection
  severity : Severity
  evidenceScore : Rat
  sourceQualityStatus : String
  scenarioId : Option String
  deriving DecidableEq, Repr

/-- A row before the alerts are finalized, with the policy values its alert
is decided by. -/
structure Scored where
  row : Observation
  zThreshold : Rat
  minimumSupport : Nat
  minimumRelative : Rat
  minimumAbsolute : Rat
  deriving DecidableEq, Repr

/-- The order of the tables: `time_grain`, `period_start`, `series_id`. -/
def Observation.key (o : Observation) : String ×ₗ (Instant ×ₗ String) :=
  toLex (o.timeGrain.text, toLex (o.periodStart, o.seriesId))

-- ---------------------------------------------------------------------------
-- Identifiers
-- ---------------------------------------------------------------------------

/-- `isoformat` and `str` of a moment in UTC. -/
class PeriodText where
  isoformat : Instant → String
  str : Instant → String

/-- `stable_hash_id` -/
def stableHashId [Hashing] (pre : String) (payload : Json) : String :=
  pre ++ "-" ++ String.ofList ((digest payload).toList.take 20)

end Paic.Detection
