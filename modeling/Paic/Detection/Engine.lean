import Paic.Detection.Models
import Paic.Lib.Partition
import Mathlib

/-!
# The detector

`_score_series` runs every series through its own state: the history of the
values, a CUSUM and a sequential detector. `_apply_fdr` adjusts the p-values of
each period, and `_finalize_alerts` decides which rows are anomalies.
-/

namespace Paic.Detection

open Checks (raiseIf need)
open DetectionMath (add sub mul div)
open Partition (distinct parts)
open Sorted (byKey last)

-- ---------------------------------------------------------------------------
-- The state of a series
-- ---------------------------------------------------------------------------

structure HistoryPoint where
  period : Instant
  value : Rat
  numerator : Option Rat
  denominator : Option Rat
  deriving DecidableEq, Repr

structure CusumState where
  positive : Rat
  negative : Rat
  positiveStart : Option Instant
  negativeStart : Option Instant
  previouslyAboveThreshold : Bool
  deriving DecidableEq, Repr

structure SequentialState where
  positive : Rat
  negative : Rat
  previouslyAboveThreshold : Bool
  deriving DecidableEq, Repr

/-- What the loop over the rows of a series carries along. -/
structure SeriesState where
  history : List HistoryPoint
  cusum : CusumState
  sequential : SequentialState
  deriving DecidableEq, Repr

def SeriesState.start : SeriesState := ⟨[], ⟨0, 0, none, none, false⟩, ⟨0, 0, false⟩⟩

/-- `_direction`; the bound is the double nearest to `1e-15`. -/
def directionOf (residual : Option Rat) : Direction :=
  match residual with
  | none => .flat
  | some r => if |r| ≤ pmfTolerance then .flat else if 0 < r then .increase else .decrease

/-- `_impact_direction` -/
def impactDirectionOf (direction : Direction) (higherIsBetter : Option Bool) : ImpactDirection :=
  match direction, higherIsBetter with
  | .flat, _ | _, none => .neutral
  | .increase, some better => if better then .improvement else .degradation
  | .decrease, some better => if better then .degradation else .improvement

section
variable [DetectionMath]

/-- `timedelta.total_seconds` -/
def totalSeconds (microseconds : Int) : Rat := div microseconds 1000000

/-- `_season_matches` -/
def seasonMatches (current previous : Instant) (grain : TimeGrain) (seasonalPeriods : Nat) : Bool :=
  let cycle := seasonalPeriods * periodDelta grain
  let elapsed := current - previous
  let cycles := div (totalSeconds elapsed) (totalSeconds cycle)
  decide (cycle ≤ elapsed) && cycles.den = 1

/-- What `_update_cusum` returns. -/
structure CusumUpdate where
  state : CusumState
  score : Rat
  detected : Bool
  estimated : Option Instant

/-- `_update_cusum` -/
def updateCusum (state : CusumState) (zScore : Rat) (period : Instant) (config : CusumConfig) :
    CusumUpdate :=
  let positiveStart := if state.positive ≤ 0 then some period else state.positiveStart
  let negativeStart := if state.negative ≤ 0 then some period else state.negativeStart
  let positive := max 0 (sub (add state.positive zScore) config.drift)
  let negative := max 0 (sub (sub state.negative zScore) config.drift)
  let score := max positive negative
  let above := decide (config.threshold ≤ score)
  { state := ⟨positive, negative, positiveStart, negativeStart, above⟩
    score
    detected := above && !state.previouslyAboveThreshold
    estimated :=
      if above then if negative ≤ positive then positiveStart else negativeStart else none }

/-- What `_update_sequential` returns. -/
structure SequentialUpdate where
  state : SequentialState
  score : Rat
  alert : Bool

/-- `_update_sequential` -/
def updateSequential (state : SequentialState) (zScore shift threshold : Rat) :
    SequentialUpdate :=
  let half := div (mul shift shift) 2
  let positive := max 0 (sub (add state.positive (mul shift zScore)) half)
  let negative := max 0 (sub (sub state.negative (mul shift zScore)) half)
  let score := max positive negative
  let above := decide (threshold ≤ score)
  { state := ⟨positive, negative, above⟩
    score
    alert := above && !state.previouslyAboveThreshold }

/-- `math.log((1.0 - alpha) / alpha)` -/
def sequentialThreshold (config : SequentialConfig) : Rat :=
  DetectionMath.log (div (sub 1 config.alpha) config.alpha)

-- ---------------------------------------------------------------------------
-- One row
-- ---------------------------------------------------------------------------

/-- The points that a row is compared with. -/
structure Baseline where
  finiteHistory : List HistoryPoint
  seasonal : List HistoryPoint
  points : List HistoryPoint
  method : String

/-- `finite_history`, `seasonal`, `baseline` and `baseline_method`. -/
def baselineOf (window : BaselineWindow) (grain : TimeGrain) (history : List HistoryPoint)
    (period : Instant) : Baseline :=
  let finiteHistory := last window.lookbackPeriods history
  let seasonal := finiteHistory.filter fun point =>
    seasonMatches period point.period grain window.seasonalPeriods
  if window.minimumSeasonalHistory ≤ seasonal.length then
    ⟨finiteHistory, seasonal, seasonal, "seasonal-median-mad"⟩
  else ⟨finiteHistory, seasonal, finiteHistory, "rolling-median-mad"⟩

/-- How far an observed value is from the baseline. -/
structure Deviation where
  expected : Rat
  scale : Rat
  lower : Rat
  upper : Rat
  residual : Rat
  absoluteChange : Rat
  relativeChange : Option Rat
  robustZ : Rat

def deviationOf (window : BaselineWindow) (definition : MetricDefinition)
    (points : List HistoryPoint) (observed : Rat) : Except Error Deviation := do
  let (expected, scale) ← robustLocationScale (points.map (·.value)) window.minimumScale
    window.relativeScaleFloor
  let (lower, upper) := robustInterval expected scale definition
  let residual := sub observed expected
  pure
    { expected, scale, lower, upper, residual
      absoluteChange := |residual|
      relativeChange :=
        if window.minimumScale < |expected| then some (div residual |expected|) else none
      robustZ := div residual scale }

/-- What the detectors say about an eligible row. -/
structure Detected where
  distributionName : String
  pValue : Option Rat
  cusumScore : Rat
  changeDetected : Bool
  estimatedChangeStart : Option Instant
  sequentialScore : Rat
  sequentialAlert : Bool
  cusum : CusumState
  sequential : SequentialState

/-- A row that no detector is run on. -/
def Detected.unavailable (state : SeriesState) : Detected :=
  { distributionName := "unavailable", pValue := none, cusumScore := 0, changeDetected := false,
    estimatedChangeStart := none, sequentialScore := 0, sequentialAlert := false,
    cusum := state.cusum, sequential := state.sequential }

def detectedOf (config : DetectionConfig) (definition : MetricDefinition) (state : SeriesState)
    (source : MetricRow) (points : List HistoryPoint) (observed robustZ : Rat) :
    Except Error Detected := do
  let ratioHistory := points.filterMap fun point =>
    match point.numerator, point.denominator with
    | some numerator, some denominator => some (numerator, denominator)
    | _, _ => none
  let predictive ← distributionPValue definition observed source.numerator source.denominator
    robustZ (points.map (·.value)) (ratioHistory.map Prod.fst) (ratioHistory.map Prod.snd)
  let cusum := if config.cusum.enabled then
    updateCusum state.cusum robustZ source.periodStart config.cusum
    else ⟨state.cusum, 0, false, none⟩
  let sequential := if config.sequential.enabled then
    updateSequential state.sequential robustZ config.sequential.alternativeStandardizedShift
      (sequentialThreshold config.sequential)
    else ⟨state.sequential, 0, false⟩
  pure
    { distributionName := predictive.distributionName
      pValue := some predictive.pValue
      cusumScore := cusum.score
      changeDetected := cusum.detected
      estimatedChangeStart := cusum.estimated
      sequentialScore := sequential.score
      sequentialAlert := sequential.alert
      cusum := cusum.state
      sequential := sequential.state }

/-- What is fixed for all rows of a series. -/
structure SeriesSetup where
  metricName : String
  definition : MetricDefinition
  grain : TimeGrain
  window : BaselineWindow
  policy : AlertPolicy

def sampleSizeOf (source : MetricRow) : Int := source.sampleSize.getD 0

/-- `str(source.get("quality_status") or "undefined")` -/
def sourceQualityOf (source : MetricRow) : String :=
  match source.qualityStatus with
  | none => "undefined"
  | some text => if text = "" then "undefined" else text

def historyPoint (source : MetricRow) (observed : Rat) : HistoryPoint :=
  ⟨source.periodStart, observed, source.numerator, source.denominator⟩

variable [Hashing] [PeriodText]

/-- The row that `_score_series` appends to its output. -/
def scoredRow (setup : SeriesSetup) (source : MetricRow) (baseline : Baseline) (eligible : Bool)
    (deviation : Option Deviation) (detected : Detected) : Scored :=
  { row :=
      { observationId := stableHashId "OBS" (.obj [("series", .str source.seriesId),
          ("period", .str (PeriodText.isoformat source.periodStart))])
        seriesId := source.seriesId
        metricName := setup.metricName
        displayName := source.displayName
        domain := source.domain
        metricType := source.metricType
        unit := source.unit
        higherIsBetter := source.higherIsBetter
        timeGrain := setup.grain
        periodStart := source.periodStart
        periodEnd := source.periodEnd
        cohortName := source.cohortName
        dimensionCount := source.dimensionCount
        dimensions := source.dimensions
        observedValue := source.value
        expectedValue := deviation.map (·.expected)
        expectedLower := deviation.map (·.lower)
        expectedUpper := deviation.map (·.upper)
        numerator := source.numerator
        denominator := source.denominator
        sampleSize := sampleSizeOf source
        baselinePoints := baseline.finiteHistory.length
        seasonalPoints := baseline.seasonal.length
        baselineMethod := baseline.method
        baselineLastPeriod := baseline.finiteHistory.getLast?.map (·.period)
        robustScale := deviation.map (·.scale)
        residual := deviation.map (·.residual)
        absoluteChange := deviation.map (·.absoluteChange)
        relativeChange := deviation.bind (·.relativeChange)
        robustZ := deviation.map (·.robustZ)
        distributionName := detected.distributionName
        pValue := detected.pValue
        qValue := none
        cusumScore := detected.cusumScore
        changeDetected := detected.changeDetected
        estimatedChangeStart := detected.estimatedChangeStart
        sequentialLogLikelihood := detected.sequentialScore
        sequentialAlert := detected.sequentialAlert
        supportRobustDeviation := false
        supportFdrSignificance := false
        supportCusum := false
        supportSequential := false
        detectorSupportCount := 0
        sampleSizeGatePassed := setup.policy.minimumSampleSize ≤ sampleSizeOf source
        effectSizeGatePassed := false
        historyGatePassed := setup.window.minimumHistory ≤ baseline.finiteHistory.length
        alertReasonCodes := []
        isEligible := eligible
        isAnomaly := false
        direction := directionOf (deviation.map (·.residual))
        impactDirection :=
          impactDirectionOf (directionOf (deviation.map (·.residual))) source.higherIsBetter
        severity := .none
        evidenceScore := 0
        sourceQualityStatus := sourceQualityOf source
        scenarioId := source.scenarioId }
    zThreshold := setup.policy.robustZThreshold
    minimumSupport := setup.policy.minimumDetectorSupport
    minimumRelative := setup.policy.minimumRelativeEffect
    minimumAbsolute := setup.policy.minimumAbsoluteEffect }

/-- `eligible` -/
def eligibleOf (setup : SeriesSetup) (source : MetricRow) (baseline : Baseline) : Bool :=
  source.value.isSome &&
    decide (sourceQualityOf source = "ok" ∨ sourceQualityOf source = "insufficient_data") &&
    decide (setup.policy.minimumSampleSize ≤ sampleSizeOf source) &&
    decide (setup.window.minimumHistory ≤ baseline.finiteHistory.length)

/-- The deviation of a row that has a value and a baseline. -/
def rowDeviation (setup : SeriesSetup) (source : MetricRow) (baseline : Baseline) :
    Except Error (Option Deviation) :=
  match source.value with
  | none => pure none
  | some observed =>
    if baseline.points = [] then pure none
    else some <$> deviationOf setup.window setup.definition baseline.points observed

/-- The detectors run on an eligible row that has a z-score. -/
def rowDetected (config : DetectionConfig) (setup : SeriesSetup) (state : SeriesState)
    (source : MetricRow) (baseline : Baseline) (deviation : Option Deviation) :
    Except Error Detected :=
  match eligibleOf setup source baseline, source.value, deviation with
  | true, some observed, some deviation =>
    detectedOf config setup.definition state source baseline.points observed deviation.robustZ
  | _, _, _ => pure (.unavailable state)

/-- The history with the value of a row, unless it is invalid. -/
def historyAfter (history : List HistoryPoint) (source : MetricRow) : List HistoryPoint :=
  match source.value with
  | none => history
  | some observed =>
    if sourceQualityOf source = "invalid" then history
    else history ++ [historyPoint source observed]

/-- One pass of the loop over the rows of a series: the new state and the row. -/
def scoreRow (config : DetectionConfig) (setup : SeriesSetup) (state : SeriesState)
    (source : MetricRow) : Except Error (SeriesState × Scored) := do
  let baseline := baselineOf setup.window setup.grain state.history source.periodStart
  let deviation ← rowDeviation setup source baseline
  let detected ← rowDetected config setup state source baseline deviation
  pure (⟨historyAfter state.history source, detected.cusum, detected.sequential⟩,
    scoredRow setup source baseline (eligibleOf setup source baseline) deviation detected)

-- ---------------------------------------------------------------------------
-- The table
-- ---------------------------------------------------------------------------

/-- The loop over the rows of a series. -/
def scoreRows (config : DetectionConfig) (setup : SeriesSetup) :
    SeriesState → List MetricRow → Except Error (List Scored)
  | _, [] => pure []
  | state, source :: rest => do
    let (state, scored) ← scoreRow config setup state source
    let output ← scoreRows config setup state rest
    pure (scored :: output)

def setupOf (config : DetectionConfig) (first : MetricRow) : Except Error SeriesSetup := do
  let definition ← metricDefinition first.metricName
  pure
    { metricName := first.metricName
      definition
      grain := first.timeGrain
      window := config.baseline.forGrain first.timeGrain
      policy := config.policyOf first.metricName }

/-- The body of the loop over the partitions. -/
def scorePartition (config : DetectionConfig) (partition : List MetricRow) :
    Except Error (List Scored) :=
  match byKey (·.periodStart) partition with
  | [] => pure []
  | first :: rest => do
    let setup ← setupOf config first
    scoreRows config setup .start (first :: rest)

/-- `.sort(["time_grain", "period_start", "series_id"])` -/
def sortRows (rows : List Scored) : List Scored := byKey (fun s => s.row.key) rows

/-- `_score_series`. A table cannot be made of no rows. -/
def scoreSeries (config : DetectionConfig) (metrics : List MetricRow) :
    Except Error (List Scored) := do
  let output ← (parts (·.seriesId) metrics).mapM (scorePartition config)
  raiseIf (output.flatten = []) (.noDataError "no data, cannot infer schema")
  pure (sortRows output.flatten)

end

-- ---------------------------------------------------------------------------
-- The false discovery rate
-- ---------------------------------------------------------------------------

/-- The group of a row whose p-value is adjusted. -/
def fdrGroup (o : Observation) : Option (TimeGrain × Instant) :=
  if o.isEligible = true ∧ o.pValue.isSome = true then some (o.timeGrain, o.periodStart) else none

/-- `groups`: the indices of each group, in their order. -/
def fdrGroups (rows : List Scored) : List (List Nat) :=
  (distinct (rows.filterMap fun s => fdrGroup s.row)).map fun group =>
    (List.range rows.length).filter fun i => (rows[i]?.bind fun s => fdrGroup s.row) = some group

section
variable [DetectionMath]

/-- The q-value of every index that has one. -/
def qValues (rows : List Scored) : List (Nat × Rat) :=
  (fdrGroups rows).flatMap fun indices =>
    indices.zip (benjaminiHochberg (indices.map fun i => (rows[i]?.bind (·.row.pValue)).getD 1))

def Scored.withQ (s : Scored) (q : Option Rat) : Scored :=
  match q with
  | none => s
  | some q => { s with row := { s.row with qValue := some q } }

/-- `_apply_fdr` -/
def applyFdr (rows : List Scored) : List Scored :=
  let adjusted := qValues rows
  sortRows (rows.mapIdx fun i s => s.withQ (adjusted.lookup i))

-- ---------------------------------------------------------------------------
-- Alerts
-- ---------------------------------------------------------------------------

/-- `_REASON_CODE_ORDER`, with the flags of a row. -/
def reasonCodes (o : Observation) (magnitude : Bool) (supports : Bool × Bool × Bool × Bool)
    (anomaly : Bool) : List String :=
  let (robust, fdr, cusum, sequential) := supports
  ([("history_gate_passed", o.historyGatePassed), ("sample_size_gate_passed",
      o.sampleSizeGatePassed), ("effect_size_gate_passed", magnitude),
    ("support_robust_deviation", robust), ("support_fdr_significance", fdr),
    ("support_cusum", cusum), ("support_sequential", sequential),
    ("alert_raised", anomaly)].filter Prod.snd).map Prod.fst

/-- The four kinds of support of an alert. -/
def supportsOf (config : DetectionConfig) (s : Scored) : Bool × Bool × Bool × Bool :=
  (s.row.robustZ.any fun z => s.zThreshold ≤ |z|,
    s.row.qValue.any fun q => q ≤ config.alertPolicy.fdrAlpha,
    config.cusum.threshold ≤ s.row.cusumScore,
    sequentialThreshold config.sequential ≤ s.row.sequentialLogLikelihood)

/-- The effect is large enough, relative to what was expected or absolutely. -/
def magnitudeOf (s : Scored) : Bool :=
  (s.row.relativeChange.any fun change => s.minimumRelative ≤ |change|) ||
    (decide (0 < s.minimumAbsolute) &&
      s.row.absoluteChange.any fun change => s.minimumAbsolute ≤ change)

/-- The body of the loop of `_finalize_alerts`. -/
def finalizeRow (config : DetectionConfig) (s : Scored) : Observation :=
  let supports := supportsOf config s
  let (robust, fdr, cusum, sequential) := supports
  let supportCount := robust.toNat + fdr.toNat + cusum.toNat + sequential.toNat
  let magnitude := magnitudeOf s
  let anomaly := s.row.isEligible && fdr && magnitude && decide (s.minimumSupport ≤ supportCount)
  let score := evidenceScore
    { robustZ := s.row.robustZ
      qValue := s.row.qValue
      cusumScore := s.row.cusumScore
      cusumThreshold := config.cusum.threshold
      sequentialLogLikelihood := s.row.sequentialLogLikelihood
      sequentialThreshold := sequentialThreshold config.sequential
      relativeChange := s.row.relativeChange
      minimumRelativeEffect := s.minimumRelative }
  { s.row with
    detectorSupportCount := supportCount
    supportRobustDeviation := robust
    supportFdrSignificance := fdr
    supportCusum := cusum
    supportSequential := sequential
    effectSizeGatePassed := magnitude
    alertReasonCodes := reasonCodes s.row magnitude supports anomaly
    isAnomaly := anomaly
    evidenceScore := score
    severity := if anomaly then severityFromScore score supportCount else .none }

/-- `_finalize_alerts` -/
def finalizeAlerts (config : DetectionConfig) (rows : List Scored) : List Observation :=
  byKey Observation.key (rows.map (finalizeRow config))

variable [Hashing] [PeriodText]

/-- The table of detector observations of a table of metrics. -/
def detect (config : DetectionConfig) (metrics : List MetricRow) :
    Except Error (List Observation) := do
  let scored ← scoreSeries config metrics
  pure (finalizeAlerts config (applyFdr scored))

end

end Paic.Detection
