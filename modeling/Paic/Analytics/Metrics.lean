import Paic.Analytics.Models
import Paic.Lib.Checks
import Paic.Lib.Partition
import Paic.Lib.Sorted
import Mathlib

/-!
# Metric aggregation

For every metric, grain and cohort that the metric supports, the facts are
grouped by the period and the cohort's dimensions, and each group is measured.
-/

namespace Paic.Analytics

open Checks (need)
open Detection (TimeGrain Instant Calculation MetricType periodDelta)
open Partition (distinct part)
open Sorted (byKey)

/-- What the aggregation reads of a definition in `METRIC_REGISTRY`. -/
structure MetricDefinition where
  name : String
  displayName : String
  domain : String
  fact : String
  timestampColumn : String
  calculation : Calculation
  metricType : MetricType
  unit : String
  higherIsBetter : Option Bool
  supportedDimensions : List Dimension
  valueColumn : Option String
  numeratorColumn : Option String
  denominatorColumn : Option String
  quantile : Option Rat
  deriving DecidableEq, Repr

/-- A row of a fact table, with its columns by name. A flag is the number 0
or 1. -/
structure FactRow where
  timestamp : String → Option Instant
  dimension : Dimension → Option String
  number : String → Option Rat
  text : String → Option String

/-- The fact tables by name. -/
abbrev FactMap := List (String × List FactRow)

/-- `.cast(pl.Int64)`: what stands behind the point is cut off. -/
def castInt64 (number : Rat) : Int := number.num.tdiv number.den

-- ---------------------------------------------------------------------------
-- Groups
-- ---------------------------------------------------------------------------

/-- `dt.truncate` of an instant of UTC. -/
def truncate (grain : TimeGrain) (instant : Instant) : Instant :=
  instant - instant % periodDelta grain

/-- `period_expression` -/
def periodOf (timestampColumn : String) (grain : TimeGrain) (row : FactRow) : Option Instant :=
  (row.timestamp timestampColumn).map (truncate grain)

/-- `_supported_cohorts` -/
def supportedCohorts (definition : MetricDefinition) (cohorts : List CohortSpec) :
    List CohortSpec :=
  cohorts.filter fun item => ∀ name ∈ item.dimensions, name ∈ definition.supportedDimensions

/-- What a group has in common: the period and the values of the dimensions. -/
abbrev GroupKey := Option Instant × List (Option String)

def groupKey (definition : MetricDefinition) (grain : TimeGrain) (cohort : CohortSpec)
    (row : FactRow) : GroupKey :=
  (periodOf definition.timestampColumn grain row, cohort.dimensions.map row.dimension)

-- ---------------------------------------------------------------------------
-- Measurements
-- ---------------------------------------------------------------------------

/-- The columns that `_aggregate_expressions` makes for a calculation. -/
inductive Aggregates where
  | count (rowCount : Nat)
  | distinctCount (rowCount distinctCount : Nat)
  | sums (rowCount valueCount : Nat) (valueSum : Rat)
  | quantile (rowCount valueCount : Nat) (quantile : Option Rat)
  | ratio (rowCount : Nat) (numerator denominator : Rat)
  deriving DecidableEq, Repr

/-- The numbers of a column that are not null. -/
def numbersOf (rows : List FactRow) (column : String) : List Rat :=
  rows.filterMap fun row => row.number column

/-- `pl.Expr.quantile` with linear interpolation. -/
def quantileOf (quantile : Rat) (values : List Rat) : Option Rat :=
  if values = [] then none else
  let sorted := byKey id values
  let position := quantile * ((sorted.length : Rat) - 1)
  let low := position.floor.toNat
  let lower := sorted.getD low 0
  let upper := sorted.getD (low + 1) lower
  some (lower + (position - low) * (upper - lower))

/-- `_aggregate_expressions`, of the rows of a group. -/
def aggregate (definition : MetricDefinition) (rows : List FactRow) : Except Error Aggregates :=
  match definition.calculation with
  | .count => .ok (.count rows.length)
  | .distinctCount => do
    let column ← need definition.valueColumn
      (.valueError ("metric " ++ definition.name ++ " requires value_column"))
    return .distinctCount rows.length (rows.map fun row => row.text column).dedup.length
  | .sum | .mean => do
    let column ← need definition.valueColumn
      (.valueError ("metric " ++ definition.name ++ " requires value_column"))
    return .sums rows.length (numbersOf rows column).length (numbersOf rows column).sum
  | .quantile => do
    let column ← need definition.valueColumn
      (.valueError ("metric " ++ definition.name ++ " requires value_column"))
    let quantile ← need definition.quantile
      (.valueError ("metric " ++ definition.name ++ " requires quantile"))
    return .quantile rows.length (numbersOf rows column).length
      (quantileOf quantile (numbersOf rows column))
  | .ratio => do
    let numeratorColumn ← need definition.numeratorColumn
      (.valueError ("metric " ++ definition.name ++ " requires numerator_column"))
    let denominator : Rat := match definition.denominatorColumn with
      | some column => ((numbersOf rows column).map fun number => (castInt64 number : Rat)).sum
      | none => rows.length
    return .ratio rows.length
      ((numbersOf rows numeratorColumn).map fun number => (castInt64 number : Rat)).sum denominator
  | .ratioOfSums =>
    match definition.numeratorColumn, definition.denominatorColumn with
    | some numeratorColumn, some denominatorColumn =>
      .ok (.ratio rows.length (numbersOf rows numeratorColumn).sum
        (numbersOf rows denominatorColumn).sum)
    | _, _ => .error (.valueError
      ("metric " ++ definition.name ++ " requires numerator and denominator columns"))

structure Measurement where
  value : Option Rat
  numerator : Option Rat
  denominator : Option Rat
  sampleSize : Int
  deriving DecidableEq, Repr

/-- `pl.when(denominator > 0).then(numerator / denominator)` -/
def definedRatio (numerator denominator : Rat) : Option Rat :=
  if 0 < denominator then some (numerator / denominator) else none

/-- `_measurement_columns` -/
def measurement (calculation : Calculation) (aggregates : Aggregates) : Measurement :=
  match aggregates with
  | .count rowCount => ⟨some rowCount, some rowCount, none, rowCount⟩
  | .distinctCount rowCount distinctCount =>
    ⟨some distinctCount, some distinctCount, none, rowCount⟩
  | .sums _ valueCount valueSum =>
    if calculation = .mean then
      ⟨definedRatio valueSum valueCount, some valueSum, some valueCount, valueCount⟩
    else ⟨some valueSum, some valueSum, none, valueCount⟩
  | .quantile _ valueCount quantile => ⟨quantile, none, none, valueCount⟩
  | .ratio rowCount numerator denominator =>
    ⟨definedRatio numerator denominator, some numerator, some denominator,
      if calculation = .ratioOfSums then rowCount else round denominator⟩

/-- `_quality_expression` -/
def qualityOf (calculation : Calculation) (minimumDenominator : Nat) (sampleSize : Int) :
    QualityStatus :=
  match calculation with
  | .ratio | .ratioOfSums | .mean | .quantile =>
    if sampleSize ≤ 0 then .undefined else
    if sampleSize < minimumDenominator then .insufficientData else .ok
  | .count | .sum | .distinctCount => .ok

/-- `_dimension_expressions`: the dimensions of the cohort, and null for the
others. -/
def dimensionOf (cohort : CohortSpec) (values : List (Option String)) (name : Dimension) :
    Option String :=
  ((cohort.dimensions.zip values).lookup name).join

/-- The observation of one group. -/
def observe (config : AnalyticsConfig) (definition : MetricDefinition) (grain : TimeGrain)
    (cohort : CohortSpec) (fact : List FactRow) (key : GroupKey) : Except Error Observation := do
  let aggregates ← aggregate definition (part (groupKey definition grain cohort) fact key)
  let measured := measurement definition.calculation aggregates
  return {
    metricName := definition.name
    displayName := definition.displayName
    domain := definition.domain
    metricType := definition.metricType
    unit := definition.unit
    higherIsBetter := definition.higherIsBetter
    timeGrain := grain
    periodStart := key.1
    periodEnd := key.1.map fun start => start + periodDelta grain
    cohortName := cohort.name
    dimensionCount := cohort.dimensions.length
    dimensions := dimensionOf cohort key.2
    value := measured.value
    numerator := measured.numerator
    denominator := measured.denominator
    sampleSize := measured.sampleSize
    qualityStatus := qualityOf definition.calculation config.minimumDenominator
      measured.sampleSize }

-- ---------------------------------------------------------------------------
-- The table
-- ---------------------------------------------------------------------------

/-- `group_by(…, maintain_order=True).agg(…)`: a group where its first row is. -/
def observeCohort (config : AnalyticsConfig) (definition : MetricDefinition) (fact : List FactRow)
    (grain : TimeGrain) (cohort : CohortSpec) : Except Error (List Observation) :=
  (distinct (fact.map (groupKey definition grain cohort))).mapM
    (observe config definition grain cohort fact)

def observeGrain (config : AnalyticsConfig) (definition : MetricDefinition) (fact : List FactRow)
    (grain : TimeGrain) : Except Error (List Observation) := do
  let outputs ← (supportedCohorts definition config.cohorts).mapM
    (observeCohort config definition fact grain)
  return outputs.flatten

def observeMetric (registry : List MetricDefinition) (facts : FactMap) (config : AnalyticsConfig)
    (metricName : String) : Except Error (List Observation) := do
  let definition ← need (registry.find? fun item => item.name = metricName) (.keyError metricName)
  let fact ← need (facts.lookup definition.fact) (.keyError definition.fact)
  if fact.isEmpty then return []
  let outputs ← config.timeGrains.mapM (observeGrain config definition fact)
  return outputs.flatten

/-- Sorting with `nulls_last`. -/
def nullLast {α : Type} (cell : Option α) : WithTop α := cell

/-- The columns that the table is sorted by. -/
def sortKey (row : Observation) :
    String ×ₗ String ×ₗ WithTop Instant ×ₗ String ×ₗ List (WithTop String) :=
  toLex (row.metricName, toLex (row.timeGrain.text, toLex (nullLast row.periodStart,
    toLex (row.cohortName, analyticDimensions.map fun name => nullLast (row.dimensions name)))))

/-- `calculate_metric_observations` -/
def calculateMetricObservations (registry : List MetricDefinition) (facts : FactMap)
    (config : AnalyticsConfig) : Except Error (List Observation) := do
  let outputs ← config.metricNames.mapM (observeMetric registry facts config)
  return byKey sortKey outputs.flatten

end Paic.Analytics
