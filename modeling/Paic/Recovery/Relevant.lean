import Paic.Recovery.Metric
import Paic.Recovery.Decision

/-!
# Which observations an evaluation reads

Of a series the evaluation reads the eligible observations after the execution
and the latest eligible ones before it. Observation sets that agree on these
are evaluated alike, in whatever order they list them and whatever else they
hold.
-/

namespace Paic.Recovery

open Sorted (Strict last byKey byKey_strict mem_byKey byKey_perm last_sublist)

-- ---------------------------------------------------------------------------
-- The relevant observations
-- ---------------------------------------------------------------------------

/-- Enough was sampled, and it was observed before the execution. -/
def IsBaseline (policy : RecoveryMetricPolicy) (executedAt : Datetime) (o : RecoveryObservation) :
    Prop :=
  policy.minimumSampleSize ≤ o.sampleSize ∧ o.observedAt.instant < executedAt.instant

/-- Enough was sampled, and it was observed from the execution on until the
evaluation. -/
def IsPost (policy : RecoveryMetricPolicy) (executedAt evaluatedAt : Datetime)
    (o : RecoveryObservation) : Prop :=
  policy.minimumSampleSize ≤ o.sampleSize ∧ executedAt.instant ≤ o.observedAt.instant ∧
    o.observedAt.instant ≤ evaluatedAt.instant

instance : Decidable (IsBaseline policy executedAt o) := by unfold IsBaseline; infer_instance

/-- It is among the latest eligible observations before the execution, as many
as the policy looks back. -/
def IsLatest (policy : RecoveryMetricPolicy) (observations : List RecoveryObservation)
    (executedAt : Datetime) (o : RecoveryObservation) : Prop :=
  IsBaseline policy executedAt o ∧
    (observations.filter fun other => decide (IsBaseline policy executedAt other) &&
      decide (o.observedAt.instant < other.observedAt.instant)).length <
      policy.baselineLookbackPeriods

/-- When a relevant observation was made and what was observed. -/
def Relevant (policy : RecoveryMetricPolicy) (observations : List RecoveryObservation)
    (executedAt evaluatedAt : Datetime) (instant : Int) (value : Rat) : Prop :=
  ∃ o ∈ observations, (IsLatest policy observations executedAt o ∨
    IsPost policy executedAt evaluatedAt o) ∧ o.observedAt.instant = instant ∧ o.value = value

/-- The observations of a policy's series. -/
def seriesOf (policy : RecoveryMetricPolicy) (observations : List RecoveryObservation) :
    List RecoveryObservation :=
  observations.filter fun o => (o.metricId, o.cohort) = (policy.metricId, policy.cohort)

-- ---------------------------------------------------------------------------
-- The windows hold the relevant observations
-- ---------------------------------------------------------------------------

section
variable {policy : RecoveryMetricPolicy} {observations : List RecoveryObservation}

/-- No two observations were made at one time. -/
def OncePerTime (observations : List RecoveryObservation) : Prop :=
  (observations.map fun o => o.observedAt.instant).Nodup

theorem OncePerTime.filter (h : OncePerTime observations) (p : RecoveryObservation → Bool) :
    OncePerTime (observations.filter p) := h.sublist (List.filter_sublist.map _)

theorem RecoveryObservationSet.Valid.oncePerTime {set : RecoveryObservationSet} (h : set.Valid) :
    OncePerTime (seriesOf policy set.observations) := by
  have hunique := h.unique.sublist ((List.filter_sublist (p := fun o =>
    decide ((o.metricId, o.cohort) = (policy.metricId, policy.cohort)))).map _)
  rw [List.Nodup, List.pairwise_map] at hunique
  rw [OncePerTime, List.Nodup, List.pairwise_map]
  refine hunique.imp_of_mem fun {a b} ha hb hne htime => hne ?_
  have hseries := (of_decide_eq_true (List.mem_filter.mp ha).2).trans
    (of_decide_eq_true (List.mem_filter.mp hb).2).symm
  obtain ⟨hmetric, hcohort⟩ := Prod.mk.inj hseries
  rw [hmetric, hcohort, htime]

/-- When the observations of a window were made and what was observed. -/
def points (window : List RecoveryObservation) : List (Int × Rat) :=
  window.map fun o => (o.observedAt.instant, o.value)

theorem baselineObs_eq : baselineObs policy observations executedAt =
    last policy.baselineLookbackPeriods (byKey (fun o => o.observedAt.instant)
      (observations.filter fun o => decide (IsBaseline policy executedAt o))) := by
  rw [baselineObs, inTimeOrder, eligible, List.filter_filter]
  congr 3
  funext o
  rw [Bool.and_comm, Bool.eq_iff_iff, Bool.and_eq_true, decide_eq_true_eq, decide_eq_true_eq,
    decide_eq_true_eq]
  rfl

theorem mem_baselineObs (honce : OncePerTime observations)
    (hlookback : policy.baselineLookbackPeriods ≠ 0) :
    o ∈ baselineObs policy observations executedAt ↔
      o ∈ observations ∧ IsLatest policy observations executedAt o := by
  have hstrict := byKey_strict (honce.filter fun o => decide (IsBaseline policy executedAt o))
  have hcount := ((byKey_perm (fun o => o.observedAt.instant)
    (observations.filter fun o => decide (IsBaseline policy executedAt o))).filter
      fun other => decide (o.observedAt.instant < other.observedAt.instant)).length_eq
  rw [baselineObs_eq, hstrict.mem_last_iff hlookback, mem_byKey, hcount, List.filter_filter,
    List.mem_filter, decide_eq_true_eq, IsLatest, and_assoc]
  simp only [Bool.and_comm]

theorem mem_postObs : o ∈ postObs policy observations executedAt evaluatedAt ↔
    o ∈ observations ∧ IsPost policy executedAt evaluatedAt o := by
  simp only [postObs, inTimeOrder, mem_byKey, eligible, List.mem_filter, IsPost, decide_eq_true_eq,
    and_assoc]

theorem points_baseline_strict (honce : OncePerTime observations) :
    Strict Prod.fst (points (baselineObs policy observations executedAt)) := by
  have hstrict := byKey_strict (honce.filter fun o => decide (IsBaseline policy executedAt o))
  rw [baselineObs_eq]
  exact (hstrict.sublist (last_sublist _ _)).map fun _ => rfl

theorem points_post_strict (honce : OncePerTime observations) :
    Strict Prod.fst (points (postObs policy observations executedAt evaluatedAt)) := by
  have hstrict := byKey_strict ((honce.filter fun o => policy.minimumSampleSize ≤ o.sampleSize).filter
    fun o => executedAt.instant ≤ o.observedAt.instant ∧ o.observedAt.instant ≤ evaluatedAt.instant)
  exact hstrict.map fun _ => rfl

theorem mem_points_baseline (evaluatedAt : Datetime) (honce : OncePerTime observations)
    (hlookback : policy.baselineLookbackPeriods ≠ 0) :
    p ∈ points (baselineObs policy observations executedAt) ↔
      Relevant policy observations executedAt evaluatedAt p.1 p.2 ∧ p.1 < executedAt.instant := by
  obtain ⟨instant, value⟩ := p
  simp only [points, List.mem_map, mem_baselineObs honce hlookback, Prod.mk.injEq]
  constructor
  · rintro ⟨o, ⟨ho, hlatest⟩, rfl, rfl⟩
    exact ⟨⟨o, ho, .inl hlatest, rfl, rfl⟩, hlatest.1.2⟩
  · rintro ⟨⟨o, ho, hlatest | hpost, rfl, rfl⟩, hbefore⟩
    · exact ⟨o, ⟨ho, hlatest⟩, rfl, rfl⟩
    · exact absurd hpost.2.1 (Int.not_le.mpr hbefore)

theorem mem_points_post : p ∈ points (postObs policy observations executedAt evaluatedAt) ↔
    Relevant policy observations executedAt evaluatedAt p.1 p.2 ∧ executedAt.instant ≤ p.1 := by
  obtain ⟨instant, value⟩ := p
  simp only [points, List.mem_map, mem_postObs, Prod.mk.injEq]
  constructor
  · rintro ⟨o, ⟨ho, hpost⟩, rfl, rfl⟩
    exact ⟨⟨o, ho, .inr hpost, rfl, rfl⟩, hpost.2.1⟩
  · rintro ⟨⟨o, ho, hlatest | hpost, rfl, rfl⟩, hafter⟩
    · exact absurd hlatest.1.2 (Int.not_lt.mpr hafter)
    · exact ⟨o, ⟨ho, hpost⟩, rfl, rfl⟩

-- ---------------------------------------------------------------------------
-- Two sets that agree on what is relevant
-- ---------------------------------------------------------------------------

section
variable [RecoveryMath] {observations' : List RecoveryObservation}

omit [RecoveryMath] in
theorem values_eq_points (window : List RecoveryObservation) :
    window.map RecoveryObservation.value = (points window).map Prod.snd := by
  rw [points, List.map_map]
  rfl

/-- One series is evaluated like the other. -/
theorem evaluateMetric_relevant (alpha scaleFloor : Rat)
    (hlookback : policy.baselineLookbackPeriods ≠ 0)
    (honce : OncePerTime observations) (honce' : OncePerTime observations')
    (hexecuted : executedAt.instant = executedAt'.instant)
    (hrelevant : ∀ instant value, Relevant policy observations executedAt evaluatedAt instant value ↔
      Relevant policy observations' executedAt' evaluatedAt' instant value) :
    evaluateMetric policy observations executedAt evaluatedAt alpha scaleFloor =
      evaluateMetric policy observations' executedAt' evaluatedAt' alpha scaleFloor := by
  have hbaseline : points (baselineObs policy observations executedAt) =
      points (baselineObs policy observations' executedAt') := by
    refine (points_baseline_strict honce).eq_of_mem_iff (points_baseline_strict honce') fun p => ?_
    rw [mem_points_baseline evaluatedAt honce hlookback,
      mem_points_baseline evaluatedAt' honce' hlookback, hrelevant, hexecuted]
  have hpost : points (postObs policy observations executedAt evaluatedAt) =
      points (postObs policy observations' executedAt' evaluatedAt') := by
    refine (points_post_strict honce).eq_of_mem_iff (points_post_strict honce') fun p => ?_
    rw [mem_points_post, mem_points_post, hrelevant, hexecuted]
  simp only [evaluateMetric, values_eq_points, hbaseline, hpost]

/-- Of the observations of each configured series the two sets agree on the
relevant ones. -/
def AgreeOnRelevant (config : RecoveryConfig) (set set' : RecoveryObservationSet)
    (at_ at_' : Datetime) : Prop :=
  ∀ policy ∈ config.metrics, ∀ instant value,
    Relevant policy (seriesOf policy set.observations) set.executedAt at_ instant value ↔
      Relevant policy (seriesOf policy set'.observations) set'.executedAt at_' instant value

variable [Hashing]

/-- Sets that agree on the relevant observations have the same metric
evaluations, decision and counts. -/
theorem irrelevant_observations {set set' : RecoveryObservationSet} (hc : config.Valid)
    (hs : set.Valid) (hs' : set'.Valid)
    (hexecuted : set.executedAt.instant = set'.executedAt.instant)
    (hagree : AgreeOnRelevant config set set' (evaluatedAt.getD set.generatedAt)
      (evaluatedAt'.getD set'.generatedAt))
    (h : evaluateRecovery metricEvaluator config set manifest observationManifest evaluatedAt =
      .ok report)
    (h' : evaluateRecovery metricEvaluator config set' manifest' observationManifest' evaluatedAt' =
      .ok report') :
    report.metricEvaluations = report'.metricEvaluations ∧ report.decision = report'.decision ∧
      report.primaryRecovered = report'.primaryRecovered ∧
      report.primaryTotal = report'.primaryTotal ∧
      report.guardrailsHealthy = report'.guardrailsHealthy ∧
      report.guardrailTotal = report'.guardrailTotal ∧
      report.severeGuardrailBreach = report'.severeGuardrailBreach := by
  obtain ⟨-, rfl⟩ := evaluateRecovery_metricEvaluations h
  obtain ⟨-, rfl⟩ := evaluateRecovery_metricEvaluations h'
  have hevaluations : evaluationsAt metricEvaluator config set (evaluatedAt.getD set.generatedAt) =
      evaluationsAt metricEvaluator config set' (evaluatedAt'.getD set'.generatedAt) := by
    refine List.map_congr_left fun policy hpolicy => ?_
    have hlookback : policy.baselineLookbackPeriods ≠ 0 := by
      have := (hc.metrics policy hpolicy).baselineLookbackPeriods.1
      omega
    have hmetric := evaluateMetric_relevant config.alpha config.scaleFloor hlookback
      hs.oncePerTime hs'.oncePerTime hexecuted (hagree policy hpolicy)
    unfold seriesOf at hmetric
    simp only [metricEvaluator, hmetric]
  simp only [RecoveryReport.sealed, provisionalReport, hevaluations, and_self]

end

end

-- ---------------------------------------------------------------------------
-- The sample in another order
-- ---------------------------------------------------------------------------

instance : Decidable (IsPost policy executedAt evaluatedAt o) := by unfold IsPost; infer_instance

instance : Decidable (IsLatest policy observations executedAt o) := by
  unfold IsLatest; infer_instance

namespace Sample

def undersampled : RecoveryObservation := { observation "latency" 12 with sampleSize := 3, value := 7 }

/-- The observations the other way round, and one of too few samples. -/
def shuffled : RecoveryObservationSet :=
  { observations with
    observations := [undersampled, observation "errors" 15, observation "latency" 15,
      observation "latency" 0] }

theorem shuffled_valid : shuffled.Valid :=
  { observations_valid with
    count := by decide
    observations := by decide
    unique := by decide
    baseline := by decide
    post := by decide
    generated := by decide }

theorem shuffled_agrees : AgreeOnRelevant config observations shuffled (at_ 20) (at_ 20) := by
  have hsame : ∀ policy ∈ config.metrics,
      (∀ o ∈ seriesOf policy observations.observations,
        o ∈ seriesOf policy shuffled.observations ∧
        (IsLatest policy (seriesOf policy observations.observations) (at_ 10) o →
          IsLatest policy (seriesOf policy shuffled.observations) (at_ 10) o)) ∧
      ∀ o ∈ seriesOf policy shuffled.observations,
        (IsLatest policy (seriesOf policy shuffled.observations) (at_ 10) o ∨
          IsPost policy (at_ 10) (at_ 20) o) →
        o ∈ seriesOf policy observations.observations ∧
        (IsLatest policy (seriesOf policy shuffled.observations) (at_ 10) o →
          IsLatest policy (seriesOf policy observations.observations) (at_ 10) o) := by
    decide
  intro policy hpolicy instant value
  obtain ⟨hforth, hback⟩ := hsame policy hpolicy
  constructor
  · rintro ⟨o, ho, hrelevant, rfl, rfl⟩
    exact ⟨o, (hforth o ho).1, hrelevant.imp_left (hforth o ho).2, rfl, rfl⟩
  · rintro ⟨o, ho, hrelevant, rfl, rfl⟩
    obtain ⟨hmem, hlatest⟩ := hback o ho hrelevant
    exact ⟨o, hmem, hrelevant.imp_left hlatest, rfl, rfl⟩

end Sample

section
attribute [local instance] exactMath

/-- The order of the list and a row of too few samples change nothing. -/
theorem irrelevant_observations_sample : ∃ report report',
    evaluateRecovery metricEvaluator Sample.config Sample.observations Sample.manifest none
      (some (Sample.at_ 20)) = .ok report ∧
    evaluateRecovery metricEvaluator Sample.config Sample.shuffled Sample.manifest none
      (some (Sample.at_ 20)) = .ok report' ∧
    report.metricEvaluations = report'.metricEvaluations ∧ report.decision = report'.decision := by
  have hmetric : ∀ p os e a alpha floor, (metricEvaluator p os e a alpha floor).role = p.role :=
    fun _ _ _ _ _ _ => metricEvaluator_spec.1
  have hreport := Sample.evaluateRecovery_report metricEvaluator 20 hmetric (by decide)
  have hreport' : evaluateRecovery metricEvaluator Sample.config Sample.shuffled Sample.manifest
      none (some (Sample.at_ 20)) = .ok _ :=
    evaluateRecovery_returns Sample.config_valid Sample.shuffled_valid rfl hmetric rfl
      (by decide : (Sample.at_ 10).instant ≤ (Sample.at_ 20).instant)
      (undeclared_eq_nil.mpr (by decide))
  have hagree : AgreeOnRelevant Sample.config Sample.observations Sample.shuffled
      ((some (Sample.at_ 20)).getD Sample.observations.generatedAt)
      ((some (Sample.at_ 20)).getD Sample.shuffled.generatedAt) := Sample.shuffled_agrees
  obtain ⟨hsame, hdecision, -⟩ := irrelevant_observations Sample.config_valid
    Sample.observations_valid Sample.shuffled_valid rfl hagree hreport hreport'
  exact ⟨_, _, hreport, hreport', hsame, hdecision⟩

end

end Paic.Recovery
