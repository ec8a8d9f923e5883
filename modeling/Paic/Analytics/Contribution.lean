import Paic.Analytics.Models
import Paic.Lib.Checks
import Paic.Lib.Sorted
import Mathlib

/-!
# Contributions of cohorts

The change of a ratio between adjacent periods, taken apart into the rate and
mix effects of the cohorts.
-/

namespace Paic.Analytics

open Checks (need raiseIf)
open Detection (TimeGrain Instant)
open Sorted (byKey)

/-- `_safe_rate` -/
def safeRate (numerator denominator : Rat) : Rat :=
  if 0 < denominator then numerator / denominator else 0

/-- `math.isclose` -/
def isClose (a b relTol absTol : Rat) : Prop := |a - b| ≤ max (relTol * max |a| |b|) absTol

instance : Decidable (isClose a b relTol absTol) := by
  unfold isClose
  infer_instance

-- ---------------------------------------------------------------------------
-- The rows of a period
-- ---------------------------------------------------------------------------

/-- A dict of cohort values to numerators and denominators. -/
abbrev PeriodRows := List (String × Rat × Rat)

/-- `rows[value] = cell`, in the place that a value already has. -/
def setItem (rows : PeriodRows) (value : String) (cell : Rat × Rat) : PeriodRows :=
  if value ∈ rows.map Prod.fst then
    rows.map fun entry => if entry.1 = value then (value, cell) else entry
  else rows ++ [(value, cell)]

/-- `_period_rows`; no row is of the period null. -/
def periodRows (frame : List Observation) (dimension : Dimension) (period : Option Instant) :
    PeriodRows :=
  let selected := frame.filter fun row => row.periodStart.isSome ∧ row.periodStart = period
  selected.foldl
    (fun rows item =>
      match item.dimensions dimension with
      | none => rows
      | some value => setItem rows value (item.numerator.getD 0, item.denominator.getD 0))
    []

def PeriodRows.numerator (rows : PeriodRows) : Rat := (rows.map fun entry => entry.2.1).sum

def PeriodRows.denominator (rows : PeriodRows) : Rat := (rows.map fun entry => entry.2.2).sum

/-- `rows.get(value, (0.0, 0.0))` -/
def PeriodRows.cell (rows : PeriodRows) (value : String) : Rat × Rat :=
  (rows.lookup value).getD (0, 0)

/-- `sorted(set(baseline_rows) | set(current_rows))` -/
def cohortValues (baselineRows currentRows : PeriodRows) : List String :=
  byKey id (baselineRows.map Prod.fst ++ currentRows.map Prod.fst).dedup

-- ---------------------------------------------------------------------------
-- The rows of a pair of periods
-- ---------------------------------------------------------------------------

inductive Direction where
  | positive | negative | neutral
  deriving DecidableEq, Repr

/-- A row of `contribution_observations`. -/
structure ContributionRow where
  analysisName : String
  metricName : String
  timeGrain : TimeGrain
  baselinePeriodStart : Option Instant
  baselinePeriodEnd : Option Instant
  currentPeriodStart : Option Instant
  currentPeriodEnd : Option Instant
  dimensionName : Dimension
  cohortValue : String
  baselineNumerator : Rat
  baselineDenominator : Rat
  baselineRate : Rat
  currentNumerator : Rat
  currentDenominator : Rat
  currentRate : Rat
  baselineShare : Rat
  currentShare : Rat
  rateEffect : Rat
  mixEffect : Rat
  totalContribution : Rat
  overallChange : Rat
  contributionShare : Option Rat
  direction : Direction
  qualityStatus : QualityStatus
  deriving DecidableEq, Repr

/-- Two adjacent periods with their ends. -/
structure PeriodPair where
  baselinePeriod : Option Instant
  currentPeriod : Option Instant
  baselineEnd : Option Instant
  currentEnd : Option Instant
  deriving DecidableEq, Repr

def overallChange (baselineRows currentRows : PeriodRows) : Rat :=
  safeRate currentRows.numerator currentRows.denominator -
    safeRate baselineRows.numerator baselineRows.denominator

/-- `1e-15` -/
def tolerance : Rat := 1 / 10 ^ 15

/-- One pass of the loop over the cohort values. -/
def contributionRow (config : AnalyticsConfig) (analysis : ContributionSpec) (pair : PeriodPair)
    (baselineRows currentRows : PeriodRows) (cohortValue : String) : ContributionRow :=
  let baselineDenominator := baselineRows.denominator
  let currentDenominator := currentRows.denominator
  let overall := overallChange baselineRows currentRows
  let baseline := baselineRows.cell cohortValue
  let current := currentRows.cell cohortValue
  let baselineRate := safeRate baseline.1 baseline.2
  let currentRate := safeRate current.1 current.2
  let baselineShare := safeRate baseline.2 baselineDenominator
  let currentShare := safeRate current.2 currentDenominator
  let rateEffect := 1 / 2 * (baselineShare + currentShare) * (currentRate - baselineRate)
  let mixEffect := 1 / 2 * (baselineRate + currentRate) * (currentShare - baselineShare)
  let total := rateEffect + mixEffect
  { analysisName := analysis.name
    metricName := analysis.metric
    timeGrain := analysis.timeGrain
    baselinePeriodStart := pair.baselinePeriod
    baselinePeriodEnd := pair.baselineEnd
    currentPeriodStart := pair.currentPeriod
    currentPeriodEnd := pair.currentEnd
    dimensionName := analysis.dimension
    cohortValue := cohortValue
    baselineNumerator := baseline.1
    baselineDenominator := baseline.2
    baselineRate := baselineRate
    currentNumerator := current.1
    currentDenominator := current.2
    currentRate := currentRate
    baselineShare := baselineShare
    currentShare := currentShare
    rateEffect := rateEffect
    mixEffect := mixEffect
    totalContribution := total
    overallChange := overall
    contributionShare := if isClose overall 0 (1 / 10 ^ 9) tolerance then none else
      some (total / overall)
    direction := if tolerance < total then .positive else
      if total < -tolerance then .negative else .neutral
    qualityStatus :=
      if (config.minimumDenominator : Rat) ≤ baseline.2 ∧
          (config.minimumDenominator : Rat) ≤ current.2 then .ok
      else .insufficientData }

/-- `rows_for_pair` -/
def pairRows (config : AnalyticsConfig) (analysis : ContributionSpec) (pair : PeriodPair)
    (baselineRows currentRows : PeriodRows) : List ContributionRow :=
  (cohortValues baselineRows currentRows).map
    (contributionRow config analysis pair baselineRows currentRows)

/-- One pass of the loop over the pairs of periods. -/
def decomposePair (config : AnalyticsConfig) (analysis : ContributionSpec) (pair : PeriodPair)
    (baselineRows currentRows : PeriodRows) : Except Error (List ContributionRow) := do
  if baselineRows.denominator ≤ 0 ∨ currentRows.denominator ≤ 0 then return []
  let rows := pairRows config analysis pair baselineRows currentRows
  let overall := overallChange baselineRows currentRows
  let reconstructed := (rows.map ContributionRow.totalContribution).sum
  raiseIf (rows ≠ [] ∧ ¬ isClose reconstructed overall (1 / 10 ^ 9) (1 / 10 ^ 12))
    (.decompositionFailed analysis.name reconstructed overall)
  return rows

-- ---------------------------------------------------------------------------
-- An analysis
-- ---------------------------------------------------------------------------

/-- The observations of an analysis. -/
def analysisFrame (observations : List Observation) (analysis : ContributionSpec)
    (cohort : CohortSpec) : List Observation :=
  observations.filter fun row => row.metricName = analysis.metric ∧
    row.timeGrain = analysis.timeGrain ∧ row.cohortName = cohort.name

/-- Sorting puts the null period first. -/
def nullFirst (period : Option Instant) : WithBot Instant := period

/-- `.unique().sort()` -/
def periodsOf (frame : List Observation) : List (Option Instant) :=
  byKey nullFirst (frame.map Observation.periodStart).dedup

/-- `period_end[period]` -/
def periodEndOf (frame : List Observation) (period : Option Instant) : Option Instant :=
  (frame.reverse.find? fun row => row.periodStart = period).bind Observation.periodEnd

/-- The pairs of adjacent periods. -/
def pairsOf (frame : List Observation) : List PeriodPair :=
  let periods := periodsOf frame
  (periods.zip periods.tail).map fun (baselinePeriod, currentPeriod) =>
    ⟨baselinePeriod, currentPeriod, periodEndOf frame baselinePeriod,
      periodEndOf frame currentPeriod⟩

/-- The cohort that has the dimension of an analysis and no other. -/
def cohortOf (config : AnalyticsConfig) (analysis : ContributionSpec) : Except Error CohortSpec :=
  need (config.cohorts.find? fun item => item.dimensions = [analysis.dimension]) .stopIteration

/-- `_decompose_analysis` -/
def decomposeAnalysis (observations : List Observation) (config : AnalyticsConfig)
    (analysis : ContributionSpec) : Except Error (List ContributionRow) := do
  let cohort ← cohortOf config analysis
  let frame := analysisFrame observations analysis cohort
  let output ← (pairsOf frame).mapM fun pair =>
    decomposePair config analysis pair (periodRows frame analysis.dimension pair.baselinePeriod)
      (periodRows frame analysis.dimension pair.currentPeriod)
  return output.flatten

/-- `calculate_contribution_observations` -/
def calculateContributionObservations (observations : List Observation)
    (config : AnalyticsConfig) : Except Error (List ContributionRow) := do
  let rows ← config.contributions.mapM (decomposeAnalysis observations config)
  return byKey
    (fun row => toLex (row.analysisName, toLex (nullFirst row.currentPeriodStart,
      row.cohortValue)))
    rows.flatten

end Paic.Analytics
