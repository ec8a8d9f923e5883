import Paic.Platform
import Paic.Recovery.Lifecycle

/-!
# A recovery on the computing platform

A policy with one primary metric and one guardrail, observations of both, and
two evaluators: one finds everything recovered, the other a severe breach of
the guardrail.
-/

namespace Paic.Recovery.Sample

def at_ (minute : Nat) : Datetime := Datetime.addMinutes ⟨0, some 0⟩ minute

def receipt : String := digest (.str "receipt")

def manifest : String := digest (.str "execution manifest")

def policy (metricId : String) (role : MetricRole) : RecoveryMetricPolicy :=
  { metricId
    cohort := "overall"
    role
    healthyDirection := .lowerIsBetter
    baselineLookbackPeriods := 24
    minimumBaselinePeriods := 8
    minimumPostPeriods := 4
    sustainPeriods := 3
    minimumSampleSize := 20
    equivalenceMarginRelative := 1 / 20
    equivalenceMarginAbsolute := 0
    minimumWithinBandFraction := 4 / 5
    minimumImprovementFraction := 1 / 2
    severeRobustZ := 4 }

def config : RecoveryConfig :=
  { recoveryId := "recovery"
    incidentId := "incident"
    alpha := 1 / 20
    scaleFloor := 1 / 1000000000
    reopenAfterConsecutiveFailures := 2
    immediateReopenOnSevereGuardrail := true
    metrics := [policy "latency" .primary, policy "errors" .guardrail] }

def observation (metricId : String) (minute : Nat) : RecoveryObservation :=
  { metricId, cohort := "overall", observedAt := at_ minute, value := 1, sampleSize := 50 }

def observations : RecoveryObservationSet :=
  { observationSetId := "observations"
    incidentId := "incident"
    executionReceiptSha256 := receipt
    executionManifestSha256 := manifest
    analyticsManifestSha256 := digest (.str "analytics")
    sourceSimulationId := "simulation"
    generatorConfigSha256 := digest (.str "generator")
    executedAt := at_ 10
    generatedAt := at_ 20
    observations := [observation "latency" 0, observation "latency" 15, observation "errors" 15] }

/-- An evaluation of a policy with a status and a reason. -/
def evaluation (p : RecoveryMetricPolicy) (status : MetricStatus) (severeBreach : Bool)
    (reason : String) : RecoveryMetricEvaluation :=
  { metricId := p.metricId
    cohort := p.cohort
    role := p.role
    healthyDirection := p.healthyDirection
    status
    baselineCount := 8
    postCount := 4
    sustainCount := 3
    baselineCenter := some 1
    baselineScale := some 1
    latestCenter := some 1
    equivalenceMargin := some 1
    equivalencePvalue := some 0
    withinBandFraction := some 1
    latestRobustZ := some 0
    distanceSlope := some 0
    improvementFraction := some 0
    severeBreach
    reasonCodes := [reason] }

def healthy : MetricEvaluator := fun p _ _ _ _ _ =>
  evaluation p .recovered false "statistically_recovered"

def breach : MetricEvaluator := fun p _ _ _ _ _ =>
  evaluation p .failed (p.role = .guardrail) "severe_guardrail_breach"

/-- The report of an evaluator at a time. -/
def report (metric : MetricEvaluator) (minute : Nat) : RecoveryReport :=
  (provisionalReport config observations manifest none (at_ minute)
    (evaluationsAt metric config observations (at_ minute))).sealed

theorem config_valid : config.Valid := (by decide +kernel : Model.Valid config)

theorem observations_valid : observations.Valid where
  observationSetId := by decide
  incidentId := by decide
  executionReceiptSha256 := digest_hex _
  executionManifestSha256 := digest_hex _
  analyticsManifestSha256 := digest_hex _
  sourceSimulationId := by decide
  generatorConfigSha256 := digest_hex _
  executedAt := rfl
  generatedAt := rfl
  count := by decide
  observations := by decide
  order := by decide
  unique := by decide
  baseline := by decide
  post := by decide
  generated := by decide

theorem evaluateRecovery_report (metric : MetricEvaluator) (minute : Nat)
    (hmetric : ∀ p os e a alpha floor, (metric p os e a alpha floor).role = p.role)
    (hafter : 10 ≤ minute) :
    evaluateRecovery metric config observations manifest none (some (at_ minute)) =
      .ok (report metric minute) := by
  refine evaluateRecovery_returns config_valid observations_valid rfl hmetric rfl ?_
    (undeclared_eq_nil.mpr (by decide))
  simp only [observations, at_, Datetime.addMinutes]
  omega

def initial : RecoveryLifecycleState := initialState config receipt manifest

theorem initial_valid : initial.Valid :=
  initialState_valid config_valid (digest_hex _) (digest_hex _)

theorem initial_bound (metric : MetricEvaluator) (minute : Nat) :
    Bound initial (report metric minute) config where
  verified := verifyReport_sealed _
  incidentId := rfl
  executionReceiptSha256 := rfl
  executionManifestSha256 := rfl
  recoveryId := rfl
  reportConfig := rfl
  config := rfl
  fresh := List.not_mem_nil
  later := fun _ h => absurd h nofun

/-- The state after a recovery. -/
def recovered : RecoveryLifecycleState := nextState initial (report healthy 15) config

theorem recovers : ∃ trigger, transitionState initial (report healthy 15) config =
    .ok (recovered, trigger) := by
  refine ⟨_, transitionState_ok.mpr ⟨initial_bound healthy 15, ?_, rfl, rfl⟩⟩
  rw [nextState_valid_iff initial_valid (initial_bound healthy 15) (digest_hex _) rfl
    (by simp [initial, initialState])]
  exact fun h => absurd h (by decide)

theorem recovered_bound : Bound recovered (report breach 20) config where
  verified := verifyReport_sealed _
  incidentId := rfl
  executionReceiptSha256 := rfl
  executionManifestSha256 := rfl
  recoveryId := rfl
  reportConfig := rfl
  config := rfl
  fresh := by decide +kernel
  later := by rintro t ⟨⟩; decide

/-- A severe breach after the recovery reopens the incident. -/
theorem reopens : ∃ s trigger, transitionState recovered (report breach 20) config =
    .ok (s, trigger) ∧ s.status = .reopened := by
  obtain ⟨_, htaken⟩ := recovers
  have hv : recovered.Valid := (transitionState_ok.mp htaken).2.1
  refine ⟨_, _, transitionState_ok.mpr ⟨recovered_bound, ?_, rfl, rfl⟩, by decide⟩
  rw [nextState_valid_iff hv recovered_bound (digest_hex _) rfl
    (by simp [recovered, nextState, initial, initialState])]
  exact fun _ => .inl rfl

end Paic.Recovery.Sample
