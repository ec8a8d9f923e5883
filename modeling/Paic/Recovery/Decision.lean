import Paic.Recovery.Metric
import Paic.Recovery.Sample

/-!
# The decision is the worst status

`evaluate_recovery` decides by five flags over the metric evaluations. A
severe breach of a guardrail makes that guardrail's status `failed`, so the
flags come to the worst status; a metric that is added can only make it worse.
-/

namespace Paic.Recovery

open Checks (bind_eq_ok raiseIf_ok pure_eq_ok)

-- ---------------------------------------------------------------------------
-- The order of the statuses
-- ---------------------------------------------------------------------------

/-- From `recovered`, the best, to `failed`. -/
def RecoveryDecision.rank : RecoveryDecision → Nat
  | .recovered => 0
  | .recovering => 1
  | .insufficientData => 2
  | .failed => 3

theorem RecoveryDecision.rank_le_failed (d : RecoveryDecision) : d.rank ≤ RecoveryDecision.failed.rank := by
  cases d <;> decide

/-- The decision is one of the statuses, and no status is worse. -/
structure Worst (statuses : List MetricStatus) (decision : RecoveryDecision) : Prop where
  mem : decision ∈ statuses
  le : ∀ s ∈ statuses, s.rank ≤ decision.rank

theorem Worst.failed (h : Worst statuses decision) (hmem : .failed ∈ statuses) :
    decision = .failed := by
  have hle := h.le _ hmem
  cases decision with
  | failed => rfl
  | recovered | recovering | insufficientData => exact absurd hle (by decide)

/-- The worst of more statuses is no better. -/
theorem Worst.mono (h : Worst statuses decision) (h' : Worst statuses' decision')
    (hsub : statuses ⊆ statuses') : decision.rank ≤ decision'.rank :=
  h'.le _ (hsub h.mem)

/-- A severe breach comes with the status `failed`. -/
def SevereFails (evaluations : List RecoveryMetricEvaluation) : Prop :=
  ∀ e ∈ evaluations, e.severeBreach = true → e.status = .failed

theorem decisionOf_worst (hne : evaluations ≠ []) (hsevere : SevereFails evaluations) :
    Worst (evaluations.map RecoveryMetricEvaluation.status) (decisionOf evaluations) := by
  have hmem : ∀ {s}, (∃ e ∈ evaluations, e.status = s) ↔
      s ∈ evaluations.map RecoveryMetricEvaluation.status := by
    intro s
    rw [List.mem_map]
  have hbound : ∀ {d : RecoveryDecision}, (∀ e ∈ evaluations, e.status.rank ≤ d.rank) →
      ∀ s ∈ evaluations.map RecoveryMetricEvaluation.status, s.rank ≤ d.rank := by
    intro d h s hs
    obtain ⟨e, he, rfl⟩ := hmem.mpr hs
    exact h e he
  dsimp only [decisionOf]
  split
  · next h =>
    have hfailed : ∃ e ∈ evaluations, e.status = .failed := by
      rcases h with h | h
      · obtain ⟨e, he, hbreach⟩ := List.any_eq_true.mp h
        exact ⟨e, (List.mem_filter.mp he).1, hsevere e (List.mem_filter.mp he).1 hbreach⟩
      · simpa using h
    exact ⟨hmem.mp hfailed, fun s _ => s.rank_le_failed⟩
  · next hnone =>
    have hfailed : ∀ e ∈ evaluations, e.status ≠ .failed := by
      simpa using fun h => hnone (.inr h)
    split
    · next h =>
      refine ⟨hmem.mp (by simpa using h), hbound fun e he => ?_⟩
      cases hs : e.status with
      | failed => exact absurd hs (hfailed e he)
      | recovered | recovering | insufficientData => decide
    · next h =>
      have hcomplete : ∀ e ∈ evaluations, e.status ≠ .insufficientData := by simpa using h
      split
      · next h =>
        -- every evaluation is of a primary metric or of a guardrail
        have hall : ∀ e ∈ evaluations, e.status = .recovered := by
          intro e he
          cases hrole : e.role with
          | primary =>
            simpa using List.all_eq_true.mp h.1 e (List.mem_filter.mpr ⟨he, by simpa using hrole⟩)
          | guardrail =>
            simpa using List.all_eq_true.mp h.2 e (List.mem_filter.mpr ⟨he, by simpa using hrole⟩)
        obtain ⟨e, he⟩ := List.exists_mem_of_ne_nil _ hne
        exact ⟨hmem.mp ⟨e, he, hall e he⟩, hbound fun e he => by rw [hall e he]⟩
      · next h =>
        have hopen : ∃ e ∈ evaluations, e.status = .recovering := by
          by_contra hnot
          refine h ⟨List.all_eq_true.mpr fun e he => ?_, List.all_eq_true.mpr fun e he => ?_⟩ <;>
          · have he := (List.mem_filter.mp he).1
            cases hs : e.status with
            | recovered => rfl
            | recovering => exact absurd ⟨e, he, hs⟩ hnot
            | insufficientData => exact absurd hs (hcomplete e he)
            | failed => exact absurd hs (hfailed e he)
        refine ⟨hmem.mp hopen, hbound fun e he => ?_⟩
        cases hs : e.status with
        | recovered | recovering => decide
        | insufficientData => exact absurd hs (hcomplete e he)
        | failed => exact absurd hs (hfailed e he)

-- ---------------------------------------------------------------------------
-- Evaluations
-- ---------------------------------------------------------------------------

/-- A severe verdict is neither recovered nor recovering. -/
theorem Verdict.status_of_severe {v : Verdict} (h : v.severe = true) : v.status = .failed := by
  simp [Verdict.status, Verdict.recovered, h]

section
variable [RecoveryMath]

/-- What holds of the evaluation of a policy, whatever was observed. -/
theorem metricEvaluator_spec {policy : RecoveryMetricPolicy} :
    let e := metricEvaluator policy observations executedAt evaluatedAt alpha scaleFloor
    e.role = policy.role ∧ (e.severeBreach = true → e.status = .failed) := by
  intro e
  cases hresult : evaluateMetric policy observations executedAt evaluatedAt alpha scaleFloor with
  | error err =>
    have he : e = insufficient policy 0 0 0 [] := by simp only [e, metricEvaluator, hresult]
    rw [he]
    exact ⟨rfl, fun h => absurd h Bool.false_ne_true⟩
  | ok evaluation =>
    have he : e = evaluation := by simp only [e, metricEvaluator, hresult]
    rw [he]
    obtain ⟨-, -, hrole, hmissing | ⟨verdict, _, _, _, _, _, -, hstatus, -, -, -, -, -, -, hsevere,
      -⟩⟩ := evaluateWindows_ok hresult
    · exact ⟨hrole, fun h => absurd (hmissing.2.symm.trans h) (by decide)⟩
    · refine ⟨hrole, fun h => ?_⟩
      rw [hsevere, Bool.and_eq_true] at h
      rw [hstatus, Verdict.status_of_severe h.1]

theorem evaluationsAt_severe {set : RecoveryObservationSet} :
    SevereFails (evaluationsAt metricEvaluator config set at_) := by
  intro e he
  obtain ⟨policy, -, rfl⟩ := List.mem_map.mp he
  exact metricEvaluator_spec.2

variable [Hashing]

omit [RecoveryMath] in
/-- The report of an accepted evaluation, read back. -/
theorem evaluateRecovery_metricEvaluations {set : RecoveryObservationSet}
    (h : evaluateRecovery metric config set manifest observationManifest evaluatedAt =
      .ok report) :
    report.metricEvaluations ≠ [] ∧
      report = (provisionalReport config set manifest observationManifest
        (evaluatedAt.getD set.generatedAt)
        (evaluationsAt metric config set (evaluatedAt.getD set.generatedAt))).sealed := by
  simp only [evaluateRecovery, bind_eq_ok, raiseIf_ok, pure_eq_ok, exists_and_left,
    exists_const, Decidable.not_not] at h
  obtain ⟨-, -, -, -, -, hfields, -, -, rfl⟩ := h
  exact ⟨fun hnil => absurd (hnil ▸ hfields.evaluationCount.1) (by simp), rfl⟩

theorem evaluateRecovery_worst {set : RecoveryObservationSet}
    (h : evaluateRecovery metricEvaluator config set manifest observationManifest evaluatedAt =
      .ok report) :
    Worst (report.metricEvaluations.map RecoveryMetricEvaluation.status) report.decision := by
  obtain ⟨hne, rfl⟩ := evaluateRecovery_metricEvaluations h
  exact decisionOf_worst hne evaluationsAt_severe

/-- A configuration with a metric more, and observations of the old metrics as
they were. -/
structure AddsMetric (config : RecoveryConfig) (set : RecoveryObservationSet)
    (config' : RecoveryConfig) (set' : RecoveryObservationSet) : Prop where
  metrics : ∃ policy, config'.metrics.Perm (policy :: config.metrics)
  alpha : config'.alpha = config.alpha
  scaleFloor : config'.scaleFloor = config.scaleFloor
  executedAt : set'.executedAt = set.executedAt
  observations : ∀ policy ∈ config.metrics,
    set'.observations.filter (fun o => (o.metricId, o.cohort) = (policy.metricId, policy.cohort)) =
      set.observations.filter fun o => (o.metricId, o.cohort) = (policy.metricId, policy.cohort)

omit [RecoveryMath] [Hashing] in
/-- The old metrics are evaluated as before. -/
theorem AddsMetric.subset {set set' : RecoveryObservationSet}
    (h : AddsMetric config set config' set') :
    evaluationsAt metric config set at_ ⊆ evaluationsAt metric config' set' at_ := by
  intro e he
  obtain ⟨policy, hpolicy, rfl⟩ := List.mem_map.mp he
  obtain ⟨added, hperm⟩ := h.metrics
  refine List.mem_map.mpr ⟨policy, hperm.mem_iff.mpr (List.mem_cons_of_mem _ hpolicy), ?_⟩
  rw [h.observations policy hpolicy, h.executedAt, h.alpha, h.scaleFloor]

/-- The decision is the worst status; a severe guardrail breach and any failed
metric make it `failed`; and a metric that is added does not make it
`recovered`. -/
theorem decision_worst_status {set : RecoveryObservationSet}
    (h : evaluateRecovery metricEvaluator config set manifest observationManifest evaluatedAt =
      .ok report) :
    Worst (report.metricEvaluations.map RecoveryMetricEvaluation.status) report.decision ∧
    (report.severeGuardrailBreach = true → report.decision = .failed) ∧
    (∀ e ∈ report.metricEvaluations, e.status = .failed → report.decision = .failed) ∧
    ∀ {config' set' manifest' observationManifest' evaluatedAt' report'},
      AddsMetric config set config' set' →
      evaluatedAt'.getD set'.generatedAt = evaluatedAt.getD set.generatedAt →
      evaluateRecovery metricEvaluator config' set' manifest' observationManifest' evaluatedAt' =
        .ok report' →
      report.decision ≠ .recovered → report'.decision ≠ .recovered := by
  have hworst := evaluateRecovery_worst h
  refine ⟨hworst, ?_, ?_, ?_⟩
  · intro hsevere
    obtain ⟨-, rfl⟩ := evaluateRecovery_metricEvaluations h
    obtain ⟨e, he, hbreach⟩ := List.any_eq_true.mp hsevere
    have he := (List.mem_filter.mp he).1
    exact hworst.failed (List.mem_map.mpr ⟨e, he, evaluationsAt_severe e he hbreach⟩)
  · intro e he hfailed
    exact hworst.failed (List.mem_map.mpr ⟨e, he, hfailed⟩)
  · intro config' set' manifest' observationManifest' evaluatedAt' report' hadds hat h' hdecision
    have hworst' := evaluateRecovery_worst h'
    obtain ⟨-, rfl⟩ := evaluateRecovery_metricEvaluations h
    obtain ⟨-, rfl⟩ := evaluateRecovery_metricEvaluations h'
    rw [hat] at hworst' ⊢
    have hle := hworst.mono hworst' (List.map_subset _ hadds.subset)
    intro hrecovered
    rw [hrecovered] at hle
    refine hdecision ?_
    generalize RecoveryReport.decision _ = decision at hle ⊢
    cases decision with
    | recovered => rfl
    | recovering | insufficientData | failed => exact absurd hle (by decide)

end

section
attribute [local instance] exactMath

/-- Three observations are too few for a decision. -/
theorem decision_worst_status_sample : ∃ report,
    evaluateRecovery metricEvaluator Sample.config Sample.observations Sample.manifest none
      (some (Sample.at_ 20)) = .ok report ∧
    Worst (report.metricEvaluations.map RecoveryMetricEvaluation.status) report.decision := by
  have hreport := Sample.evaluateRecovery_report metricEvaluator 20
    (fun _ _ _ _ _ _ => metricEvaluator_spec.1) (by decide)
  exact ⟨_, hreport, (decision_worst_status hreport).1⟩

end

end Paic.Recovery
