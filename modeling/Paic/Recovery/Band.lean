import Paic.Recovery.Metric
import Paic.Recovery.Decision
import Mathlib

/-!
# A recovered metric is back in its band

`_evaluate_metric` compares the share of the sustained values in the band with
the policy, and never the centre with the margin. Where the share is more than
a half, the centre, a median, is in the band as well.
-/

namespace Paic.Recovery

open Checks (bind_eq_ok raiseIf_ok need_ok pure_eq_ok)
open Sorted (last last_sublist length_last)
open Median (middle middle_some le_middle middle_le middle_const)

theorem midpoint_between : Median.Between midpoint where
  left hle := by unfold midpoint; linarith
  right hle := by unfold midpoint; linarith

/-- The points of a constant have the slope zero. -/
theorem pairSlopes_const {points : List (Rat × Rat)} (h : ∀ p ∈ points, p.2 = c) :
    ∀ slope ∈ pairSlopes points, slope = 0 := by
  induction points with
  | nil => exact nofun
  | cons p rest ih =>
    obtain ⟨hp, hrest⟩ := List.forall_mem_cons.mp h
    intro slope hslope
    rcases List.mem_append.mp hslope with hslope | hslope
    · obtain ⟨q, hq, rfl⟩ := List.mem_map.mp hslope
      rw [hrest q (List.mem_filter.mp hq).1, hp, sub_self, zero_div]
    · exact ih hrest slope hslope

section
variable [RecoveryMath]

theorem Exact.median (hexact : Exact) : median values = .ok m ↔ middle midpoint values = some m := by
  have hmid : (fun a b : Rat => RecoveryMath.div (RecoveryMath.add a b) 2) = midpoint := by
    funext a b
    rw [hexact.div, hexact.add, midpoint]
  rw [Recovery.median, need_ok, hmid]

/-- The centre is the median, and the scale is not negative. -/
theorem Exact.robustCenterScale (hexact : Exact)
    (h : robustCenterScale values floor = .ok (center, scale)) :
    middle midpoint values = some center ∧ 0 ≤ scale := by
  simp only [Recovery.robustCenterScale, bind_eq_ok, raiseIf_ok, hexact.median, pure_eq_ok,
    Prod.mk.injEq, exists_and_left, exists_const] at h
  obtain ⟨hne, center, hcenter, deviation, hdeviation, rfl, rfl⟩ := h
  refine ⟨hcenter, le_max_of_le_left ?_⟩
  have hpos : 0 < values.length := List.length_pos_iff.mpr hne
  have hall : (values.map fun value => |RecoveryMath.sub value center|).countP (0 ≤ ·) =
      values.length := by
    rw [List.countP_eq_length.mpr, List.length_map]
    intro d hd
    obtain ⟨value, -, rfl⟩ := List.mem_map.mp hd
    simp
  have hnonneg : 0 ≤ deviation :=
    le_middle midpoint_between hdeviation (by rw [hall, List.length_map]; omega)
  rw [hexact.mul]
  exact mul_nonneg hnonneg (by decide +kernel)

theorem Exact.adverse_self (hexact : Exact) (value : Rat) (policy : RecoveryMetricPolicy) :
    adverse value value policy = 0 := by
  cases hdirection : policy.healthyDirection <;> simp [adverse, hdirection, hexact.sub]

/-- The slope of equal distances is zero. -/
theorem Exact.theilSenSlope (hexact : Exact) {values : List Rat} (h : ∀ v ∈ values, v = c) :
    theilSenSlope values = 0 := by
  unfold Recovery.theilSenSlope
  split
  · rfl
  · next hlong =>
    refine hexact.theilslopes _ _ _ (middle_const midpoint_between ?_ ?_)
    · match values with
      | [] => simp at hlong
      | [_] => simp at hlong
      | a :: b :: rest => simp [pairSlopes, List.range_succ_eq_map]
    · refine pairSlopes_const (c := c) fun p hp => h _ (List.of_mem_zip hp).2

omit [RecoveryMath] in
/-- When more than half of the values are in the band, their median is. -/
theorem median_in_band (hmiddle : middle midpoint values = some latest)
    (hmost : values.length < 2 * values.countP fun v => |v - center| ≤ margin) :
    |latest - center| ≤ margin := by
  have hlo : values.countP (fun v => |v - center| ≤ margin) ≤
      values.countP (center - margin ≤ ·) := by
    refine List.countP_mono_left fun v _ hv => ?_
    simp only [decide_eq_true_eq, abs_le] at hv ⊢
    linarith [hv.1]
  have hhi : values.countP (fun v => |v - center| ≤ margin) ≤
      values.countP (· ≤ center + margin) := by
    refine List.countP_mono_left fun v _ hv => ?_
    simp only [decide_eq_true_eq, abs_le] at hv ⊢
    linarith [hv.2]
  have hle := le_middle midpoint_between hmiddle (lt_of_lt_of_le hmost (Nat.mul_le_mul_left 2 hlo))
  have hge := middle_le midpoint_between hmiddle (lt_of_lt_of_le hmost (Nat.mul_le_mul_left 2 hhi))
  rw [abs_le]
  constructor <;> linarith

-- ---------------------------------------------------------------------------
-- What a verdict says
-- ---------------------------------------------------------------------------

omit [RecoveryMath] in
theorem Verdict.status_recovered {v : Verdict} (h : v.status = .recovered) :
    v.withinBand = true ∧ v.severe = false := by
  obtain ⟨equivalent, withinBand, regression, severe, improved⟩ := v
  cases equivalent <;> cases withinBand <;> cases regression <;> cases severe <;>
    cases improved <;> simp_all [Verdict.status, Verdict.recovered]

omit [RecoveryMath] in
theorem Verdict.reasons_of_not_severe {v : Verdict} (h : v.severe = false) (role : MetricRole) :
    "severe_guardrail_breach" ∉ v.reasonCodes role ∧ "severe_primary_gap" ∉ v.reasonCodes role := by
  obtain ⟨equivalent, withinBand, regression, severe, improved⟩ := v
  obtain rfl : severe = false := h
  cases equivalent <;> cases withinBand <;> cases regression <;> cases improved <;>
    cases role <;> decide

/-- The share of values in the band, when nothing is rounded. -/
theorem Exact.fraction (hexact : Exact) (values : List Rat) (center margin : Rat) :
    RecoveryMath.div (withinBand values center margin) values.length =
      (values.countP fun v => |v - center| ≤ margin : Rat) / values.length := by
  rw [hexact.div, withinBand]
  simp only [hexact.sub]

theorem welchTost_margin (h : welchTost baseline candidate margin alpha = .ok result) :
    0 < margin := by
  simp only [welchTost, bind_eq_ok, raiseIf_ok, exists_and_left, exists_const] at h
  exact not_le.mp h.2.1

variable {policy : RecoveryMetricPolicy} {baselineValues postValues : List Rat} {slope : Rat}

/-- A recovered metric has its centre and most of its sustained values in the
band, and no severe distance. -/
theorem Judged.recovered (hexact : Exact) (hp : policy.Valid)
    (hfraction : 1 / 2 < policy.minimumWithinBandFraction)
    (h : Judged policy baselineValues postValues alpha scaleFloor verdict center scale latest fraction
      slope) (hstatus : verdict.status = .recovered) :
    let margin := bandMargin policy center scaleFloor
    let sustained := last policy.sustainPeriods postValues
    |latest - center| ≤ margin ∧ adverse latest center policy ≤ policy.severeRobustZ * scale ∧
      sustained.length < 2 * sustained.countP fun v => |v - center| ≤ margin := by
  intro margin sustained
  obtain ⟨hband, hsevere⟩ := Verdict.status_recovered hstatus
  obtain ⟨-, -, hlength⟩ := missing_eq_nil.mp h.enough
  have hpos : (0 : Rat) < sustained.length := by
    have hperiods := hp.sustainPeriods
    have hpos : 0 < sustained.length := lt_of_lt_of_le (by omega) hlength
    exact_mod_cast hpos
  have hshare : policy.minimumWithinBandFraction ≤ fraction :=
    of_decide_eq_true (h.withinBand.symm.trans hband)
  have hmost : sustained.length < 2 * sustained.countP fun v => |v - center| ≤ margin := by
    have hhalf := lt_of_lt_of_le hfraction hshare
    rw [h.share, hexact.fraction, lt_div_iff₀ hpos] at hhalf
    have htwice : (sustained.length : Rat) <
        2 * (sustained.countP fun v => |v - center| ≤ margin : Nat) := by linarith
    exact_mod_cast htwice
  obtain ⟨latestScale, hlatest⟩ := h.sustained
  refine ⟨median_in_band (hexact.robustCenterScale hlatest).1 hmost, ?_, hmost⟩
  have hnot := of_decide_eq_false (h.severe.symm.trans hsevere)
  rwa [hexact.mul, not_lt] at hnot

/-- A metric that stands where the baseline stood is judged by zero distances. -/
theorem Judged.unchanged (hexact : Exact) (hp : policy.Valid)
    (h : Judged policy baselineValues postValues alpha scaleFloor verdict center scale latest fraction
      slope) (hall : ∀ v ∈ postValues, v = center) :
    slope = 0 ∧ verdict.severe = false ∧ fraction = 1 := by
  obtain ⟨-, -, hlength⟩ := missing_eq_nil.mp h.enough
  have hpos : 0 < (last policy.sustainPeriods postValues).length := by
    have := hp.sustainPeriods
    omega
  have hsustained : ∀ v ∈ last policy.sustainPeriods postValues, v = center :=
    fun v hv => hall v ((last_sublist _ _).mem hv)
  refine ⟨?_, ?_, ?_⟩
  · rw [h.trend]
    refine hexact.theilSenSlope (c := 0) fun d hd => ?_
    obtain ⟨v, hv, rfl⟩ := List.mem_map.mp hd
    rw [hall v hv, hexact.adverse_self]
  · obtain ⟨latestScale, hlatest⟩ := h.sustained
    have hmiddle := (hexact.robustCenterScale hlatest).1
    rw [middle_const midpoint_between (List.length_pos_iff.mp hpos) hsustained] at hmiddle
    obtain rfl := Option.some.inj hmiddle
    rw [h.severe, hexact.adverse_self, decide_eq_false_iff_not, not_lt, hexact.mul]
    exact mul_nonneg hp.severeRobustZ.le (hexact.robustCenterScale h.baseline).2
  · obtain ⟨result, htest⟩ := h.tested
    have hmargin := welchTost_margin htest
    rw [h.share, hexact.fraction, List.countP_eq_length.mpr, div_self]
    · exact_mod_cast hpos.ne'
    · intro v hv
      rw [hsustained v hv, sub_self, abs_zero, decide_eq_true_eq]
      exact hmargin.le

/-- The values in the two windows of an evaluation. -/
def baselineValuesOf (policy : RecoveryMetricPolicy) (observations : List RecoveryObservation)
    (executedAt : Datetime) : List Rat :=
  (baselineObs policy observations executedAt).map RecoveryObservation.value

def postValuesOf (policy : RecoveryMetricPolicy) (observations : List RecoveryObservation)
    (executedAt evaluatedAt : Datetime) : List Rat :=
  (postObs policy observations executedAt evaluatedAt).map RecoveryObservation.value

/-- A metric judged recovered has its centre within the margin of the median
of the baseline, no severe distance, and most of its sustained values in the
band; and where all values after the execution are the median of the baseline,
the slope is zero, nothing is severe and all values are in the band. -/
theorem recovered_in_band (hexact : Exact) (hp : policy.Valid)
    (hfraction : 1 / 2 < policy.minimumWithinBandFraction)
    (h : evaluateMetric policy observations executedAt evaluatedAt alpha scaleFloor = .ok e) :
    let sustained := last policy.sustainPeriods
      (postValuesOf policy observations executedAt evaluatedAt)
    (e.status = .recovered → ∃ center scale latest margin,
      middle midpoint (baselineValuesOf policy observations executedAt) = some center ∧
      e.baselineCenter = some center ∧ e.baselineScale = some scale ∧
      e.latestCenter = some latest ∧ e.equivalenceMargin = some margin ∧
      |latest - center| ≤ margin ∧ adverse latest center policy ≤ policy.severeRobustZ * scale ∧
      sustained.length = policy.sustainPeriods ∧
      sustained.length < 2 * sustained.countP fun v => |v - center| ≤ margin) ∧
    (e.status ≠ .insufficientData →
      (∀ v ∈ postValuesOf policy observations executedAt evaluatedAt,
        middle midpoint (baselineValuesOf policy observations executedAt) = some v) →
      e.distanceSlope = some 0 ∧ e.withinBandFraction = some 1 ∧ e.severeBreach = false ∧
      "severe_guardrail_breach" ∉ e.reasonCodes ∧ "severe_primary_gap" ∉ e.reasonCodes) := by
  intro sustained
  obtain ⟨-, -, -, ⟨hmissing, -⟩ | ⟨verdict, center, scale, latest, fraction, slope, hjudged, hstatus,
    hcenter, hscale, hlatest, hmargin, hshare, hslope, hsevere, hreasons⟩⟩ := evaluateWindows_ok h
  · rw [hmissing]
    exact ⟨nofun, fun hnot => absurd rfl hnot⟩
  · have hmiddle := (hexact.robustCenterScale hjudged.baseline).1
    constructor
    · intro hrecovered
      obtain ⟨hband, hdistance, hmost⟩ :=
        hjudged.recovered hexact hp hfraction (hstatus.symm.trans hrecovered)
      have hlength : sustained.length = policy.sustainPeriods := by
        have hperiods := hp.sustainPeriods
        have hlength : sustained.length = min policy.sustainPeriods _ := length_last (by omega) _
        have hle : policy.sustainPeriods ≤ sustained.length :=
          (missing_eq_nil.mp hjudged.enough).2.2
        exact le_antisymm (hlength ▸ Nat.min_le_left _ _) hle
      exact ⟨center, scale, latest, _, hmiddle, hcenter, hscale, hlatest, hmargin, hband, hdistance,
        hlength, hmost⟩
    · intro _ hall
      have hconst : ∀ v ∈ postValuesOf policy observations executedAt evaluatedAt, v = center :=
        fun v hv => Option.some.inj ((hall v hv).symm.trans hmiddle)
      obtain ⟨rfl, hnot, rfl⟩ := hjudged.unchanged hexact hp hconst
      obtain ⟨hguardrail, hprimary⟩ := Verdict.reasons_of_not_severe hnot policy.role
      refine ⟨hslope, hshare, by rw [hsevere, hnot, Bool.false_and], ?_, ?_⟩
      · rw [hreasons, List.mem_eraseDups]
        exact hguardrail
      · rw [hreasons, List.mem_eraseDups]
        exact hprimary

end

-- ---------------------------------------------------------------------------
-- A metric that stands still
-- ---------------------------------------------------------------------------

namespace Sample

def shortPolicy : RecoveryMetricPolicy :=
  { policy "latency" .primary with
    baselineLookbackPeriods := 4
    minimumBaselinePeriods := 3
    minimumPostPeriods := 2
    sustainPeriods := 2 }

def steady : List RecoveryObservation := [0, 1, 2, 10, 12].map (observation "latency")

attribute [local instance] exactMath in
theorem steady_recovered : ∃ e, evaluateMetric shortPolicy steady (at_ 10) (at_ 20) (1 / 20)
    (1 / 1000) = .ok e ∧ e.status = .recovered := by
  have hok : ((evaluateMetric shortPolicy steady (at_ 10) (at_ 20) (1 / 20) (1 / 1000)).map
      RecoveryMetricEvaluation.status) = .ok .recovered := by decide +kernel
  cases h : evaluateMetric shortPolicy steady (at_ 10) (at_ 20) (1 / 20) (1 / 1000) with
  | error e => exact absurd (h ▸ hok) nofun
  | ok e => exact ⟨e, rfl, Except.ok.inj (h ▸ hok)⟩

end Sample

section
attribute [local instance] exactMath

/-- The steady metric recovers within its band. -/
theorem recovered_in_band_sample : ∃ e center latest margin,
    evaluateMetric Sample.shortPolicy Sample.steady (Sample.at_ 10) (Sample.at_ 20) (1 / 20)
      (1 / 1000) = .ok e ∧
    e.baselineCenter = some center ∧ e.latestCenter = some latest ∧
    e.equivalenceMargin = some margin ∧ |latest - center| ≤ margin := by
  obtain ⟨e, h, hstatus⟩ := Sample.steady_recovered
  have hvalid : Sample.shortPolicy.Valid := by decide +kernel
  obtain ⟨center, scale, latest, margin, -, hcenter, -, hlatest, hmargin, hband, -⟩ :=
    (recovered_in_band exactMath_exact hvalid (by decide +kernel) h).1 hstatus
  exact ⟨e, center, latest, margin, h, hcenter, hlatest, hmargin, hband⟩

end

end Paic.Recovery
