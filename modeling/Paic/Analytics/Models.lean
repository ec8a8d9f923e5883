import Paic.Detection.Models
import Mathlib

/-!
# Configuration and tables of the semantic layer

Instants are microseconds of UTC and numbers are exact. A cell that a table may
leave empty is an `Option`.
-/

namespace Paic.Analytics

open Detection (TimeGrain Instant Calculation MetricType)

inductive Error where
  | valueError (message : String)
  | keyError (key : String)
  /-- `next` on an iterator without items -/
  | stopIteration
  /-- `RuntimeError("contribution decomposition failed for …")` -/
  | decompositionFailed (analysis : String) (reconstructed overall : Rat)
  deriving DecidableEq, Repr

inductive Dimension where
  | region | device | channel | customerType | appVersion | issuer | paymentMethod | processor
  | customerSegment | loyaltyTier | productCategory | sellerId | warehouseId | pipelineName
  | service | deploymentScope
  deriving DecidableEq, Repr

/-- `ANALYTIC_DIMENSIONS` -/
def analyticDimensions : List Dimension :=
  [.region, .device, .channel, .customerType, .appVersion, .issuer, .paymentMethod, .processor,
    .customerSegment, .loyaltyTier, .productCategory, .sellerId, .warehouseId, .pipelineName,
    .service, .deploymentScope]

theorem mem_analyticDimensions (dimension : Dimension) : dimension ∈ analyticDimensions := by
  cases dimension <;> decide

-- ---------------------------------------------------------------------------
-- Configuration
-- ---------------------------------------------------------------------------

structure CohortSpec where
  name : String
  dimensions : List Dimension
  dimensions_max : dimensions.length ≤ 2
  dimensions_nodup : dimensions.Nodup
  deriving DecidableEq

structure ContributionSpec where
  name : String
  metric : String
  dimension : Dimension
  timeGrain : TimeGrain
  deriving DecidableEq, Repr

/-- `metricNames` is the property `metric_names`. -/
structure AnalyticsConfig where
  timeGrains : List TimeGrain
  minimumDenominator : Nat
  metricNames : List String
  cohorts : List CohortSpec
  contributions : List ContributionSpec
  minimumDenominator_ge : 1 ≤ minimumDenominator
  timeGrains_nodup : timeGrains.Nodup
  metricNames_nodup : metricNames.Nodup
  cohortNames_nodup : (cohorts.map CohortSpec.name).Nodup
  overall : (cohorts.filter fun item => item.dimensions = []).map CohortSpec.name = ["overall"]
  deriving DecidableEq

-- ---------------------------------------------------------------------------
-- The table of metric observations
-- ---------------------------------------------------------------------------

inductive QualityStatus where
  | undefined | insufficientData | ok
  deriving DecidableEq, Repr

/-- A row of `metric_observations`. -/
structure Observation where
  metricName : String
  displayName : String
  domain : String
  metricType : MetricType
  unit : String
  higherIsBetter : Option Bool
  timeGrain : TimeGrain
  periodStart : Option Instant
  periodEnd : Option Instant
  cohortName : String
  dimensionCount : Nat
  dimensions : Dimension → Option String
  value : Option Rat
  numerator : Option Rat
  denominator : Option Rat
  sampleSize : Int
  qualityStatus : QualityStatus

end Paic.Analytics
