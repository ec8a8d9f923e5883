import Paic.Json
import Paic.Lib.Checks
import Mathlib

/-!
# Models of recovery verification

The policies, reports, lifecycle states and events of recovery verification.
A model is a plain record; `Valid` is what its field constraints and
validators accept. Floats are rationals: a payload with another number has no
hash. The constant `schema_version` appears only in the JSON form.
-/

namespace Paic.Recovery

open Checks (raiseIf)

/-- The exceptions of the package, with their texts. `valueError` stands for
pydantic's `ValidationError` and for JSON that does not parse. -/
inductive Error where
  | recoveryEvaluationError (message : String)
  | recoveryStateStoreError (message : String)
  | valueError
  | osError
  deriving DecidableEq, Repr

/-- `str(exc)`. The texts of library exceptions are not read by any check. -/
def Error.message : Error → String
  | .recoveryEvaluationError m | .recoveryStateStoreError m => m
  | .valueError => "invalid value"
  | .osError => "operating system error"

inductive MetricRole where
  | primary | guardrail
  deriving DecidableEq, Repr

def MetricRole.text : MetricRole → String
  | .primary => "primary"
  | .guardrail => "guardrail"

inductive HealthyDirection where
  | higherIsBetter | lowerIsBetter | target
  deriving DecidableEq, Repr

def HealthyDirection.text : HealthyDirection → String
  | .higherIsBetter => "higher_is_better"
  | .lowerIsBetter => "lower_is_better"
  | .target => "target"

/-- The values of `RecoveryDecision`. -/
inductive RecoveryDecision where
  | recovered | recovering | failed | insufficientData
  deriving DecidableEq, Repr

/-- `MetricStatus` has the same values. -/
abbrev MetricStatus := RecoveryDecision

def RecoveryDecision.text : RecoveryDecision → String
  | .recovered => "recovered"
  | .recovering => "recovering"
  | .failed => "failed"
  | .insufficientData => "insufficient_data"

inductive LifecycleStatus where
  | monitoring | recovered | reopened
  deriving DecidableEq, Repr

def LifecycleStatus.text : LifecycleStatus → String
  | .monitoring => "monitoring"
  | .recovered => "recovered"
  | .reopened => "reopened"

-- ---------------------------------------------------------------------------
-- Configuration
-- ---------------------------------------------------------------------------

structure RecoveryMetricPolicy where
  metricId : String
  cohort : String
  role : MetricRole
  healthyDirection : HealthyDirection
  baselineLookbackPeriods : Nat
  minimumBaselinePeriods : Nat
  minimumPostPeriods : Nat
  sustainPeriods : Nat
  minimumSampleSize : Nat
  equivalenceMarginRelative : Rat
  equivalenceMarginAbsolute : Rat
  minimumWithinBandFraction : Rat
  minimumImprovementFraction : Rat
  severeRobustZ : Rat
  deriving DecidableEq, Repr

@[mk_iff]
structure RecoveryMetricPolicy.Valid (p : RecoveryMetricPolicy) : Prop where
  metricId : isIdentifier p.metricId = true
  cohort : isIdentifier p.cohort = true
  baselineLookbackPeriods : 4 ≤ p.baselineLookbackPeriods ∧ p.baselineLookbackPeriods ≤ 10000
  minimumBaselinePeriods : 3 ≤ p.minimumBaselinePeriods
  minimumPostPeriods : 2 ≤ p.minimumPostPeriods
  sustainPeriods : 2 ≤ p.sustainPeriods
  minimumSampleSize : 1 ≤ p.minimumSampleSize
  equivalenceMarginRelative : 0 < p.equivalenceMarginRelative ∧ p.equivalenceMarginRelative ≤ 1
  equivalenceMarginAbsolute : 0 ≤ p.equivalenceMarginAbsolute
  minimumWithinBandFraction :
    1 / 2 ≤ p.minimumWithinBandFraction ∧ p.minimumWithinBandFraction ≤ 1
  minimumImprovementFraction :
    0 ≤ p.minimumImprovementFraction ∧ p.minimumImprovementFraction ≤ 1
  severeRobustZ : 0 < p.severeRobustZ
  lookback : p.minimumBaselinePeriods ≤ p.baselineLookbackPeriods
  sustained : p.sustainPeriods ≤ p.minimumPostPeriods

instance (p : RecoveryMetricPolicy) : Decidable p.Valid :=
  decidable_of_iff' _ (RecoveryMetricPolicy.valid_iff p)

def RecoveryMetricPolicy.modelDump (p : RecoveryMetricPolicy) : Json :=
  .obj [("metric_id", .str p.metricId), ("cohort", .str p.cohort), ("role", .str p.role.text),
    ("healthy_direction", .str p.healthyDirection.text),
    ("baseline_lookback_periods", .int p.baselineLookbackPeriods),
    ("minimum_baseline_periods", .int p.minimumBaselinePeriods),
    ("minimum_post_periods", .int p.minimumPostPeriods),
    ("sustain_periods", .int p.sustainPeriods),
    ("minimum_sample_size", .int p.minimumSampleSize),
    ("equivalence_margin_relative", .float p.equivalenceMarginRelative),
    ("equivalence_margin_absolute", .float p.equivalenceMarginAbsolute),
    ("minimum_within_band_fraction", .float p.minimumWithinBandFraction),
    ("minimum_improvement_fraction", .float p.minimumImprovementFraction),
    ("severe_robust_z", .float p.severeRobustZ)]

structure RecoveryConfig where
  recoveryId : String
  incidentId : String
  alpha : Rat
  scaleFloor : Rat
  reopenAfterConsecutiveFailures : Nat
  immediateReopenOnSevereGuardrail : Bool
  metrics : List RecoveryMetricPolicy
  deriving DecidableEq, Repr

@[mk_iff]
structure RecoveryConfig.Valid (c : RecoveryConfig) : Prop where
  recoveryId : isIdentifier c.recoveryId = true
  incidentId : isIdentifier c.incidentId = true
  alpha : 0 < c.alpha ∧ c.alpha < 1 / 2
  scaleFloor : 0 < c.scaleFloor
  reopenAfterConsecutiveFailures :
    1 ≤ c.reopenAfterConsecutiveFailures ∧ c.reopenAfterConsecutiveFailures ≤ 20
  metricCount : 1 ≤ c.metrics.length ∧ c.metrics.length ≤ 500
  metrics : ∀ p ∈ c.metrics, p.Valid
  unique : (c.metrics.map fun p => (p.metricId, p.cohort)).Nodup
  primary : ∃ p ∈ c.metrics, p.role = .primary

instance : Model RecoveryConfig where
  Valid := RecoveryConfig.Valid
  decValid c := decidable_of_iff' _ (RecoveryConfig.valid_iff c)

def RecoveryConfig.modelDump (c : RecoveryConfig) : Json :=
  .obj [("schema_version", .str "1.0"), ("recovery_id", .str c.recoveryId),
    ("incident_id", .str c.incidentId), ("alpha", .float c.alpha),
    ("scale_floor", .float c.scaleFloor),
    ("reopen_after_consecutive_failures", .int c.reopenAfterConsecutiveFailures),
    ("immediate_reopen_on_severe_guardrail", .bool c.immediateReopenOnSevereGuardrail),
    ("metrics", .arr (c.metrics.map RecoveryMetricPolicy.modelDump))]

-- ---------------------------------------------------------------------------
-- Observations
-- ---------------------------------------------------------------------------

structure RecoveryObservation where
  metricId : String
  cohort : String
  observedAt : Datetime
  value : Rat
  sampleSize : Nat
  deriving DecidableEq, Repr

@[mk_iff]
structure RecoveryObservation.Valid (o : RecoveryObservation) : Prop where
  metricId : isIdentifier o.metricId = true
  cohort : isIdentifier o.cohort = true
  observedAt : o.observedAt.Aware
  sampleSize : 1 ≤ o.sampleSize

instance (o : RecoveryObservation) : Decidable o.Valid :=
  decidable_of_iff' _ (RecoveryObservation.valid_iff o)

def RecoveryObservation.modelDump [Hashing] (o : RecoveryObservation) : Json :=
  .obj [("metric_id", .str o.metricId), ("cohort", .str o.cohort),
    ("observed_at", .datetime o.observedAt), ("value", .float o.value),
    ("sample_size", .int o.sampleSize)]

structure RecoveryObservationSet where
  observationSetId : String
  incidentId : String
  executionReceiptSha256 : String
  executionManifestSha256 : String
  analyticsManifestSha256 : String
  sourceSimulationId : String
  generatorConfigSha256 : String
  executedAt : Datetime
  generatedAt : Datetime
  observations : List RecoveryObservation
  deriving DecidableEq, Repr

@[mk_iff]
structure RecoveryObservationSet.Valid (s : RecoveryObservationSet) : Prop where
  observationSetId : isIdentifier s.observationSetId = true
  incidentId : isIdentifier s.incidentId = true
  executionReceiptSha256 : isSha256 s.executionReceiptSha256 = true
  executionManifestSha256 : isSha256 s.executionManifestSha256 = true
  analyticsManifestSha256 : isSha256 s.analyticsManifestSha256 = true
  sourceSimulationId : isIdentifier s.sourceSimulationId = true
  generatorConfigSha256 : isSha256 s.generatorConfigSha256 = true
  executedAt : s.executedAt.Aware
  generatedAt : s.generatedAt.Aware
  count : 1 ≤ s.observations.length ∧ s.observations.length ≤ 100000
  observations : ∀ o ∈ s.observations, o.Valid
  order : s.executedAt.instant ≤ s.generatedAt.instant
  unique : (s.observations.map fun o => (o.metricId, o.cohort, o.observedAt.instant)).Nodup
  baseline : ∃ o ∈ s.observations, o.observedAt.instant < s.executedAt.instant
  post : ∃ o ∈ s.observations, s.executedAt.instant ≤ o.observedAt.instant
  generated : ∀ o ∈ s.observations, o.observedAt.instant ≤ s.generatedAt.instant

instance : Model RecoveryObservationSet where
  Valid := RecoveryObservationSet.Valid
  decValid s := decidable_of_iff' _ (RecoveryObservationSet.valid_iff s)

def RecoveryObservationSet.modelDump [Hashing] (s : RecoveryObservationSet) : Json :=
  .obj [("schema_version", .str "1.0"), ("observation_set_id", .str s.observationSetId),
    ("incident_id", .str s.incidentId),
    ("execution_receipt_sha256", .str s.executionReceiptSha256),
    ("execution_manifest_sha256", .str s.executionManifestSha256),
    ("analytics_manifest_sha256", .str s.analyticsManifestSha256),
    ("source_simulation_id", .str s.sourceSimulationId),
    ("generator_config_sha256", .str s.generatorConfigSha256),
    ("evaluator_generated", .bool true), ("executed_at", .datetime s.executedAt),
    ("generated_at", .datetime s.generatedAt),
    ("observations", .arr (s.observations.map RecoveryObservation.modelDump))]

-- ---------------------------------------------------------------------------
-- Reports
-- ---------------------------------------------------------------------------

structure RecoveryMetricEvaluation where
  metricId : String
  cohort : String
  role : MetricRole
  healthyDirection : HealthyDirection
  status : MetricStatus
  baselineCount : Nat
  postCount : Nat
  sustainCount : Nat
  baselineCenter : Option Rat
  baselineScale : Option Rat
  latestCenter : Option Rat
  equivalenceMargin : Option Rat
  equivalencePvalue : Option Rat
  withinBandFraction : Option Rat
  latestRobustZ : Option Rat
  distanceSlope : Option Rat
  improvementFraction : Option Rat
  severeBreach : Bool
  reasonCodes : List String
  deriving DecidableEq, Repr

@[mk_iff]
structure RecoveryMetricEvaluation.Valid (e : RecoveryMetricEvaluation) : Prop where
  metricId : isIdentifier e.metricId = true
  cohort : isIdentifier e.cohort = true
  equivalencePvalue : ∀ q ∈ e.equivalencePvalue, 0 ≤ q ∧ q ≤ 1
  withinBandFraction : ∀ q ∈ e.withinBandFraction, 0 ≤ q ∧ q ≤ 1
  reasonCount : 1 ≤ e.reasonCodes.length ∧ e.reasonCodes.length ≤ 30
  reasonCodes : ∀ r ∈ e.reasonCodes, isIdentifier r = true
  unique : e.reasonCodes.Nodup

instance (e : RecoveryMetricEvaluation) : Decidable e.Valid :=
  decidable_of_iff' _ (RecoveryMetricEvaluation.valid_iff e)

def RecoveryMetricEvaluation.modelDump (e : RecoveryMetricEvaluation) : Json :=
  .obj [("metric_id", .str e.metricId), ("cohort", .str e.cohort), ("role", .str e.role.text),
    ("healthy_direction", .str e.healthyDirection.text), ("status", .str e.status.text),
    ("baseline_count", .int e.baselineCount), ("post_count", .int e.postCount),
    ("sustain_count", .int e.sustainCount), ("baseline_center", .opt .float e.baselineCenter),
    ("baseline_scale", .opt .float e.baselineScale), ("latest_center", .opt .float e.latestCenter),
    ("equivalence_margin", .opt .float e.equivalenceMargin),
    ("equivalence_pvalue", .opt .float e.equivalencePvalue),
    ("within_band_fraction", .opt .float e.withinBandFraction),
    ("latest_robust_z", .opt .float e.latestRobustZ),
    ("distance_slope", .opt .float e.distanceSlope),
    ("improvement_fraction", .opt .float e.improvementFraction),
    ("severe_breach", .bool e.severeBreach), ("reason_codes", .strs e.reasonCodes)]

structure RecoveryReport where
  recoveryId : String
  incidentId : String
  observationSetId : String
  executionReceiptSha256 : String
  executionManifestSha256 : String
  configSha256 : String
  observationSetSha256 : String
  observationManifestSha256 : String
  evaluatedAt : Datetime
  decision : RecoveryDecision
  primaryRecovered : Nat
  primaryTotal : Nat
  guardrailsHealthy : Nat
  guardrailTotal : Nat
  severeGuardrailBreach : Bool
  metricEvaluations : List RecoveryMetricEvaluation
  reportSha256 : String
  deriving DecidableEq, Repr

namespace RecoveryReport

def evaluationsOf (r : RecoveryReport) (role : MetricRole) : List RecoveryMetricEvaluation :=
  r.metricEvaluations.filter (·.role = role)

def recoveredOf (r : RecoveryReport) (role : MetricRole) : List RecoveryMetricEvaluation :=
  (r.evaluationsOf role).filter (·.status = .recovered)

/-- What the validators of the report's own fields accept. A list of models
is not validated again. -/
@[mk_iff]
structure FieldsValid (r : RecoveryReport) : Prop where
  recoveryId : isIdentifier r.recoveryId = true
  incidentId : isIdentifier r.incidentId = true
  observationSetId : isIdentifier r.observationSetId = true
  executionReceiptSha256 : isSha256 r.executionReceiptSha256 = true
  executionManifestSha256 : isSha256 r.executionManifestSha256 = true
  configSha256 : isSha256 r.configSha256 = true
  observationSetSha256 : isSha256 r.observationSetSha256 = true
  observationManifestSha256 : isSha256 r.observationManifestSha256 = true
  evaluatedAt : r.evaluatedAt.Aware
  primaryPositive : 1 ≤ r.primaryTotal
  evaluationCount : 1 ≤ r.metricEvaluations.length ∧ r.metricEvaluations.length ≤ 500
  reportSha256 : isSha256 r.reportSha256 = true
  primaryTotal : (r.evaluationsOf .primary).length = r.primaryTotal
  guardrailTotal : (r.evaluationsOf .guardrail).length = r.guardrailTotal
  primaryRecovered : (r.recoveredOf .primary).length = r.primaryRecovered
  guardrailsHealthy : (r.recoveredOf .guardrail).length = r.guardrailsHealthy
  severe : ((r.evaluationsOf .guardrail).any fun e => e.severeBreach) = r.severeGuardrailBreach

instance (r : RecoveryReport) : Decidable r.FieldsValid :=
  decidable_of_iff' _ (fieldsValid_iff r)

@[mk_iff]
structure Valid (r : RecoveryReport) : Prop where
  fields : r.FieldsValid
  evaluations : ∀ e ∈ r.metricEvaluations, e.Valid

instance : Model RecoveryReport where
  Valid := RecoveryReport.Valid
  decValid r := decidable_of_iff' _ (valid_iff r)

/-- The JSON form without `report_sha256`. -/
def unsigned [Hashing] (r : RecoveryReport) : List (String × Json) :=
  [("schema_version", .str "1.0"), ("recovery_id", .str r.recoveryId),
    ("incident_id", .str r.incidentId), ("observation_set_id", .str r.observationSetId),
    ("execution_receipt_sha256", .str r.executionReceiptSha256),
    ("execution_manifest_sha256", .str r.executionManifestSha256),
    ("config_sha256", .str r.configSha256),
    ("observation_set_sha256", .str r.observationSetSha256),
    ("observation_manifest_sha256", .str r.observationManifestSha256),
    ("evaluated_at", .datetime r.evaluatedAt), ("decision", .str r.decision.text),
    ("primary_recovered", .int r.primaryRecovered), ("primary_total", .int r.primaryTotal),
    ("guardrails_healthy", .int r.guardrailsHealthy), ("guardrail_total", .int r.guardrailTotal),
    ("severe_guardrail_breach", .bool r.severeGuardrailBreach),
    ("metric_evaluations", .arr (r.metricEvaluations.map RecoveryMetricEvaluation.modelDump))]

/-- `report_digest` -/
def digest [Hashing] (r : RecoveryReport) : String := Paic.digest (.obj r.unsigned)

/-- The report under its own hash. -/
def sealed [Hashing] (r : RecoveryReport) : RecoveryReport := { r with reportSha256 := r.digest }

theorem FieldsValid.sealed [Hashing] {r : RecoveryReport} (h : r.FieldsValid) :
    r.sealed.FieldsValid := { h with reportSha256 := digest_hex _ }

end RecoveryReport

/-- `verify_report` -/
def verifyReport [Hashing] (report : RecoveryReport) : Except Error Unit :=
  raiseIf (report.reportSha256 ≠ report.digest)
    (.recoveryEvaluationError "recovery report hash mismatch")

theorem verifyReport_sealed [Hashing] (r : RecoveryReport) : verifyReport r.sealed = .ok () :=
  Checks.raiseIf_neg (not_not.mpr rfl)

-- ---------------------------------------------------------------------------
-- The lifecycle
-- ---------------------------------------------------------------------------

structure RecoveryLifecycleState where
  recoveryId : String
  incidentId : String
  executionReceiptSha256 : String
  executionManifestSha256 : String
  configSha256 : String
  generation : Nat
  status : LifecycleStatus
  everRecovered : Bool
  consecutiveFailedEvaluations : Nat
  appliedReportSha256s : List String
  lastReportSha256 : Option String
  lastEvaluatedAt : Option Datetime
  deriving DecidableEq, Repr

@[mk_iff]
structure RecoveryLifecycleState.Valid (s : RecoveryLifecycleState) : Prop where
  recoveryId : isIdentifier s.recoveryId = true
  incidentId : isIdentifier s.incidentId = true
  executionReceiptSha256 : isSha256 s.executionReceiptSha256 = true
  executionManifestSha256 : isSha256 s.executionManifestSha256 = true
  configSha256 : isSha256 s.configSha256 = true
  appliedCount : s.appliedReportSha256s.length ≤ 10000
  applied : ∀ h ∈ s.appliedReportSha256s, isSha256 h = true
  last : ∀ h ∈ s.lastReportSha256, isSha256 h = true
  lastEvaluatedAt : ∀ t ∈ s.lastEvaluatedAt, t.Aware
  unique : s.appliedReportSha256s.Nodup
  lastRequired : s.lastReportSha256 = none → s.appliedReportSha256s = []
  lastFinal : ∀ h ∈ s.lastReportSha256, s.appliedReportSha256s.getLast? = some h
  recovered : s.status = .recovered → s.everRecovered = true
  reopened : s.status = .reopened → s.everRecovered = true

instance : Model RecoveryLifecycleState where
  Valid := RecoveryLifecycleState.Valid
  decValid s := decidable_of_iff' _ (RecoveryLifecycleState.valid_iff s)

def RecoveryLifecycleState.modelDump [Hashing] (s : RecoveryLifecycleState) : Json :=
  .obj [("schema_version", .str "1.0"), ("recovery_id", .str s.recoveryId),
    ("incident_id", .str s.incidentId),
    ("execution_receipt_sha256", .str s.executionReceiptSha256),
    ("execution_manifest_sha256", .str s.executionManifestSha256),
    ("config_sha256", .str s.configSha256), ("generation", .int s.generation),
    ("status", .str s.status.text), ("ever_recovered", .bool s.everRecovered),
    ("consecutive_failed_evaluations", .int s.consecutiveFailedEvaluations),
    ("applied_report_sha256s", .strs s.appliedReportSha256s),
    ("last_report_sha256", .opt .str s.lastReportSha256),
    ("last_evaluated_at", .opt .datetime s.lastEvaluatedAt)]

structure RecoveryLifecycleEvent where
  recoveryId : String
  incidentId : String
  generation : Nat
  reportSha256 : String
  configSha256 : String
  beforeStateSha256 : String
  afterStateSha256 : String
  previousEventSha256 : String
  fromStatus : LifecycleStatus
  toStatus : LifecycleStatus
  trigger : String
  evaluatedAt : Datetime
  eventSha256 : String
  deriving DecidableEq, Repr

@[mk_iff]
structure RecoveryLifecycleEvent.Valid (e : RecoveryLifecycleEvent) : Prop where
  recoveryId : isIdentifier e.recoveryId = true
  incidentId : isIdentifier e.incidentId = true
  generation : 1 ≤ e.generation
  reportSha256 : isSha256 e.reportSha256 = true
  configSha256 : isSha256 e.configSha256 = true
  beforeStateSha256 : isSha256 e.beforeStateSha256 = true
  afterStateSha256 : isSha256 e.afterStateSha256 = true
  previousEventSha256 : isSha256 e.previousEventSha256 = true
  trigger : isIdentifier e.trigger = true
  evaluatedAt : e.evaluatedAt.Aware
  eventSha256 : isSha256 e.eventSha256 = true

instance : Model RecoveryLifecycleEvent where
  Valid := RecoveryLifecycleEvent.Valid
  decValid e := decidable_of_iff' _ (RecoveryLifecycleEvent.valid_iff e)

/-- The JSON form without `event_sha256`. -/
def RecoveryLifecycleEvent.unsigned [Hashing] (e : RecoveryLifecycleEvent) :
    List (String × Json) :=
  [("schema_version", .str "1.0"), ("recovery_id", .str e.recoveryId),
    ("incident_id", .str e.incidentId), ("generation", .int e.generation),
    ("report_sha256", .str e.reportSha256), ("config_sha256", .str e.configSha256),
    ("before_state_sha256", .str e.beforeStateSha256),
    ("after_state_sha256", .str e.afterStateSha256),
    ("previous_event_sha256", .str e.previousEventSha256),
    ("from_status", .str e.fromStatus.text), ("to_status", .str e.toStatus.text),
    ("trigger", .str e.trigger), ("evaluated_at", .datetime e.evaluatedAt)]

end Paic.Recovery
