import Paic.Recovery.Models
import Mathlib

/-!
# Recovery evaluation

`evaluate_recovery` groups the observations by the configured metrics and
turns the metric evaluations into one decision and a hashed report. The
evaluation of one metric is floating-point statistics and stays a parameter:
nothing here depends on what it computes.
-/

namespace Paic.Recovery

open Checks (raiseIf bind_eq_ok raiseIf_ok pure_eq_ok)

/-- `_evaluate_metric`: the policy, the observations of its series, the times
of execution and evaluation, alpha and the scale floor. -/
abbrev MetricEvaluator :=
  RecoveryMetricPolicy → List RecoveryObservation → Datetime → Datetime → Rat → Rat →
    RecoveryMetricEvaluation

/-- `repr` of a list of pairs of identifiers. -/
def reprPairs (pairs : List (String × String)) : String :=
  "[" ++ ", ".intercalate (pairs.map fun p => "('" ++ p.1 ++ "', '" ++ p.2 ++ "')") ++ "]"

def pairLE (a b : String × String) : Bool := decide (a.1 < b.1 ∨ a.1 = b.1 ∧ a.2 ≤ b.2)

/-- The observed series that no policy declares, sorted. -/
def undeclared (config : RecoveryConfig) (observations : List RecoveryObservation) :
    List (String × String) :=
  let configured := config.metrics.map fun p => (p.metricId, p.cohort)
  let observed := (observations.map fun o => (o.metricId, o.cohort)).dedup
  (observed.filter (· ∉ configured)).mergeSort pairLE

theorem undeclared_eq_nil : undeclared config observations = [] ↔
    ∀ o ∈ observations, (o.metricId, o.cohort) ∈ config.metrics.map fun p => (p.metricId, p.cohort) := by
  rw [undeclared, ← List.length_eq_zero_iff, List.length_mergeSort, List.length_eq_zero_iff,
    List.filter_eq_nil_iff]
  simp only [List.mem_dedup, List.mem_map, decide_eq_true_eq, Decidable.not_not]
  exact ⟨fun h o ho => h _ ⟨o, ho, rfl⟩, fun h _ ⟨o, ho, heq⟩ => heq ▸ h o ho⟩

/-- The decision over all metric evaluations. -/
def decisionOf (evaluations : List RecoveryMetricEvaluation) : RecoveryDecision :=
  let primary := evaluations.filter (·.role = .primary)
  let guardrails := evaluations.filter (·.role = .guardrail)
  if (guardrails.any fun e => e.severeBreach) ∨ evaluations.any (·.status = .failed) then .failed
  else if evaluations.any (·.status = .insufficientData) then .insufficientData
  else if primary.all (·.status = .recovered) ∧ guardrails.all (·.status = .recovered) then
    .recovered
  else .recovering

/-- The evaluations of all configured metrics, each of its own series. -/
def evaluationsAt (metric : MetricEvaluator) (config : RecoveryConfig)
    (set : RecoveryObservationSet) (evaluatedAt : Datetime) : List RecoveryMetricEvaluation :=
  config.metrics.map fun policy =>
    metric policy
      (set.observations.filter fun o => (o.metricId, o.cohort) = (policy.metricId, policy.cohort))
      set.executedAt evaluatedAt config.alpha config.scaleFloor

variable [Hashing]

def RecoveryConfig.digest (c : RecoveryConfig) : String := Paic.digest c.modelDump

def RecoveryObservationSet.digest (s : RecoveryObservationSet) : String := Paic.digest s.modelDump

/-- `observation_manifest_sha256 or digest(...)`: an empty text counts as none. -/
def manifestOrDigest (sha256 : Option String) (set : RecoveryObservationSet) : String :=
  match sha256 with
  | none => set.digest
  | some text => if text = "" then set.digest else text

/-- The report before its hash is known. -/
def provisionalReport (config : RecoveryConfig) (set : RecoveryObservationSet)
    (executionManifestSha256 : String) (observationManifestSha256 : Option String)
    (evaluatedAt : Datetime) (evaluations : List RecoveryMetricEvaluation) : RecoveryReport :=
  let primary := evaluations.filter (·.role = .primary)
  let guardrails := evaluations.filter (·.role = .guardrail)
  { recoveryId := config.recoveryId
    incidentId := config.incidentId
    observationSetId := set.observationSetId
    executionReceiptSha256 := set.executionReceiptSha256
    executionManifestSha256
    configSha256 := config.digest
    observationSetSha256 := set.digest
    observationManifestSha256 := manifestOrDigest observationManifestSha256 set
    evaluatedAt
    decision := decisionOf evaluations
    primaryRecovered := (primary.filter (·.status = .recovered)).length
    primaryTotal := primary.length
    guardrailsHealthy := (guardrails.filter (·.status = .recovered)).length
    guardrailTotal := guardrails.length
    severeGuardrailBreach := guardrails.any fun e => e.severeBreach
    metricEvaluations := evaluations
    reportSha256 := zeroHash }

/-- `evaluate_recovery` -/
def evaluateRecovery (metric : MetricEvaluator) (config : RecoveryConfig)
    (set : RecoveryObservationSet) (executionManifestSha256 : String)
    (observationManifestSha256 : Option String) (evaluatedAt : Option Datetime) :
    Except Error RecoveryReport := do
  raiseIf (config.incidentId ≠ set.incidentId) (.recoveryEvaluationError
    "recovery configuration and observations target different incidents")
  raiseIf (executionManifestSha256 ≠ set.executionManifestSha256)
    (.recoveryEvaluationError "observations are bound to another execution manifest")
  let at_ := evaluatedAt.getD set.generatedAt
  raiseIf (¬ at_.Aware)
    (.recoveryEvaluationError "evaluation time must include a timezone offset")
  raiseIf (at_.instant < set.executedAt.instant)
    (.recoveryEvaluationError "recovery cannot be evaluated before remediation execution")
  raiseIf (undeclared config set.observations ≠ [])
    (.recoveryEvaluationError ("observations contain undeclared recovery series: " ++
      reprPairs (undeclared config set.observations)))
  let provisional := provisionalReport config set executionManifestSha256 observationManifestSha256
    at_ (evaluationsAt metric config set at_)
  raiseIf (¬ provisional.FieldsValid) .valueError
  verifyReport provisional.sealed
  pure provisional.sealed

/-- What is known of a report that `evaluate_recovery` returns. -/
structure Evaluated (config : RecoveryConfig) (set : RecoveryObservationSet)
    (executionManifestSha256 : String) (report : RecoveryReport) : Prop where
  recoveryId : report.recoveryId = config.recoveryId
  incidentId : report.incidentId = config.incidentId
  executionReceiptSha256 : report.executionReceiptSha256 = set.executionReceiptSha256
  executionManifestSha256 : report.executionManifestSha256 = executionManifestSha256
  configSha256 : report.configSha256 = config.digest
  verified : verifyReport report = .ok ()
  reportSha256 : isSha256 report.reportSha256 = true
  evaluatedAt : report.evaluatedAt.Aware
  severe : report.severeGuardrailBreach = true → report.decision = .failed

theorem evaluateRecovery_evaluated {set : RecoveryObservationSet}
    (h : evaluateRecovery metric config set manifest observationManifest evaluatedAt =
      .ok report) : Evaluated config set manifest report := by
  simp only [evaluateRecovery, bind_eq_ok, raiseIf_ok, pure_eq_ok, exists_and_left,
    exists_const, Decidable.not_not] at h
  obtain ⟨-, -, haware, -, -, -, _, hverify, rfl⟩ := h
  constructor
  case verified => exact hverify
  case reportSha256 => exact digest_hex _
  case evaluatedAt => exact haware
  case severe =>
    intro hsevere
    exact if_pos (.inl hsevere)
  all_goals rfl

/-- A report over at least one primary metric passes the validators. -/
theorem provisionalReport_fieldsValid {set : RecoveryObservationSet} (hc : config.Valid)
    (hs : set.Valid) (hm : isSha256 manifest = true) (ht : at_.Aware)
    (hp : ∃ e ∈ evaluations, e.role = .primary) (hlen : evaluations.length ≤ 500) :
    (provisionalReport config set manifest none at_ evaluations).FieldsValid := by
  constructor
  case recoveryId => exact hc.recoveryId
  case incidentId => exact hc.incidentId
  case observationSetId => exact hs.observationSetId
  case executionReceiptSha256 => exact hs.executionReceiptSha256
  case executionManifestSha256 => exact hm
  case configSha256 => exact digest_hex _
  case observationSetSha256 => exact digest_hex _
  case observationManifestSha256 => exact digest_hex _
  case evaluatedAt => exact ht
  case primaryPositive =>
    obtain ⟨e, he, hrole⟩ := hp
    exact List.length_pos_of_mem (List.mem_filter.mpr ⟨he, by simpa using hrole⟩)
  case evaluationCount =>
    obtain ⟨e, he, -⟩ := hp
    exact ⟨List.length_pos_of_mem he, hlen⟩
  case reportSha256 => exact zeroHash_isSha256
  all_goals rfl

/-- Evaluation succeeds on observations of the incident and the execution that
belong to declared series. -/
theorem evaluateRecovery_returns {set : RecoveryObservationSet} (hc : config.Valid)
    (hs : set.Valid) (hincident : config.incidentId = set.incidentId)
    (hmetric : ∀ p os e a alpha floor, (metric p os e a alpha floor).role = p.role)
    (ht : at_.Aware) (hafter : set.executedAt.instant ≤ at_.instant)
    (hdeclared : undeclared config set.observations = []) :
    evaluateRecovery metric config set set.executionManifestSha256 none (some at_) =
      .ok (provisionalReport config set set.executionManifestSha256 none at_
        (evaluationsAt metric config set at_)).sealed := by
  obtain ⟨p, hp, hrole⟩ := hc.primary
  have hfields : (provisionalReport config set set.executionManifestSha256 none at_
      (evaluationsAt metric config set at_)).FieldsValid := provisionalReport_fieldsValid hc hs hs.executionManifestSha256 ht
    ⟨_, List.mem_map.mpr ⟨p, hp, rfl⟩, (hmetric ..).trans hrole⟩
    (by rw [evaluationsAt, List.length_map]; exact hc.metricCount.2)
  simp only [evaluateRecovery, Option.getD_some, Checks.raiseIf_neg (not_not.mpr hincident),
    Checks.raiseIf_neg (not_not.mpr ht), Checks.raiseIf_neg (not_not.mpr hdeclared),
    Checks.raiseIf_neg (Int.not_lt.mpr hafter), Checks.raiseIf_neg (not_not.mpr hfields),
    Checks.raiseIf_neg (not_not.mpr rfl), Checks.ok_bind, verifyReport_sealed]
  rfl

end Paic.Recovery
