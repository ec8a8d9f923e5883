import Paic.Detection.Adjustment
import Paic.Detection.EventRuns
import Paic.Lib.Entries

/-!
# When events can be built

A row is an anomaly by its relative change or by its absolute change, but an
event wants the largest relative change of its members. A relative change is
missing where the expected value is within the minimum scale.
-/

namespace Paic.Detection

open Checks (raiseIf need bind_eq_ok pure_eq_ok)
open Partition (parts part)
open Sorted (byKey)
open Runs (Maximal)

section
variable [DetectionMath] {config : DetectionConfig}

/-- A p-value comes with a z-score, and a relative change with an expected
value above the minimum scale. -/
structure Carries (config : DetectionConfig) (o : Observation) : Prop where
  robustZ : o.pValue.isSome → o.robustZ.isSome
  relativeChange : o.relativeChange.isSome ↔ ∃ expected ∈ o.expectedValue,
    (config.baseline.forGrain o.timeGrain).minimumScale < |expected|

theorem deviationOf_change {window : BaselineWindow} {definition : MetricDefinition}
    {points : List HistoryPoint} {d : Deviation}
    (h : deviationOf window definition points observed = .ok d) :
    d.relativeChange.isSome ↔ window.minimumScale < |d.expected| := by
  simp only [deviationOf, bind_eq_ok, pure_eq_ok] at h
  obtain ⟨location, -, rfl⟩ := h
  by_cases hscale : window.minimumScale < |location.1|
  · simp [hscale]
  · simp [hscale]

variable [Hashing] [PeriodText]

theorem scoreRow_carries {setup : SeriesSetup} {s : Scored}
    (hsetup : setup.window = config.baseline.forGrain setup.grain)
    (h : scoreRow config setup state source = .ok (state', s)) :
    Carries config s.row ∧ s.row.qValue = none := by
  simp only [scoreRow, bind_eq_ok, pure_eq_ok, Prod.mk.injEq] at h
  obtain ⟨deviation, hdeviation, detected, hdetected, -, rfl⟩ := h
  refine ⟨⟨fun hp => ?_, ?_⟩, rfl⟩
  · change detected.pValue.isSome at hp
    change (deviation.map (·.robustZ)).isSome
    cases deviation with
    | some d => rfl
    | none =>
      -- without a deviation no detector is run
      unfold rowDetected at hdetected
      split at hdetected
      · contradiction
      · rw [pure_eq_ok] at hdetected
        rw [← hdetected] at hp
        contradiction
  · change (deviation.bind (·.relativeChange)).isSome ↔
      ∃ expected ∈ deviation.map (·.expected),
        (config.baseline.forGrain setup.grain).minimumScale < |expected|
    cases deviation with
    | none => simp
    | some d =>
      have hd : ∃ points observed, deviationOf setup.window setup.definition points observed
          = .ok d := by
        unfold rowDeviation at hdeviation
        split at hdeviation
        · nomatch hdeviation
        · split at hdeviation
          · nomatch hdeviation
          · exact ⟨_, _, (Checks.map_eq_ok (Option.some_injective _)).mp hdeviation⟩
      obtain ⟨points, observed, hd⟩ := hd
      rw [← hsetup, Option.bind_some, deviationOf_change hd]
      simp

theorem scoreRows_carries {setup : SeriesSetup} {output : List Scored}
    (hsetup : setup.window = config.baseline.forGrain setup.grain)
    (h : scoreRows config setup state rows = .ok output) :
    ∀ s ∈ output, Carries config s.row ∧ s.row.qValue = none := by
  induction rows generalizing state output with
  | nil =>
    obtain rfl : [] = output := pure_eq_ok.mp h
    simp
  | cons source rest ih =>
    simp only [scoreRows, bind_eq_ok, pure_eq_ok] at h
    obtain ⟨⟨state', s⟩, hs, output, houtput, rfl⟩ := h
    exact List.forall_mem_cons.mpr ⟨scoreRow_carries hsetup hs, ih houtput⟩

omit [DetectionMath] [Hashing] [PeriodText] in
theorem setupOf_window {first : MetricRow} {setup : SeriesSetup}
    (h : setupOf config first = .ok setup) :
    setup.window = config.baseline.forGrain setup.grain := by
  simp only [setupOf, bind_eq_ok, pure_eq_ok] at h
  obtain ⟨definition, -, rfl⟩ := h
  rfl

theorem scoreSeries_carries {metrics : List MetricRow} {scored : List Scored}
    (h : scoreSeries config metrics = .ok scored) :
    ∀ s ∈ scored, Carries config s.row ∧ s.row.qValue = none := by
  simp only [scoreSeries, bind_eq_ok, pure_eq_ok] at h
  obtain ⟨output, houtput, -, -, rfl⟩ := h
  intro s hs
  rw [sortRows, Sorted.mem_byKey, List.mem_flatten] at hs
  obtain ⟨part, hpart, hs⟩ := hs
  obtain ⟨partition, -, hpart⟩ := (Checks.mapM_mem houtput).mp hpart
  rw [scorePartition] at hpart
  split at hpart
  · rw [← pure_eq_ok.mp hpart] at hs
    contradiction
  · obtain ⟨setup, hsetup, hrows⟩ := bind_eq_ok.mp hpart
    exact scoreRows_carries (setupOf_window hsetup) hrows s hs

omit [DetectionMath] [Hashing] [PeriodText] in
theorem fdrGroup_pValue {o : Observation} (h : fdrGroup o = some group) : o.pValue.isSome := by
  unfold fdrGroup at h
  split at h
  · next hgroup => exact hgroup.2
  · contradiction

omit [Hashing] [PeriodText] in
/-- A row that gets a q-value has a p-value. -/
theorem qValues_pValue {rows : List Scored} (h : (i, q) ∈ qValues rows) :
    ∃ s, rows[i]? = some s ∧ s.row.pValue.isSome := by
  simp only [qValues, fdrGroups, List.mem_flatMap, List.mem_map] at h
  obtain ⟨-, ⟨group, -, rfl⟩, h⟩ := h
  have hi := (List.mem_filter.mp (List.of_mem_zip h).1).2
  rw [decide_eq_true_eq, Option.bind_eq_some_iff] at hi
  obtain ⟨s, hs, hgroup⟩ := hi
  exact ⟨s, hs, fdrGroup_pValue hgroup⟩

omit [Hashing] [PeriodText] in
theorem mem_applyFdr {rows : List Scored} {s : Scored} (h : s ∈ applyFdr rows) :
    ∃ r ∈ rows, ∃ q : Option Rat, s = r.withQ q ∧ (q.isSome → r.row.pValue.isSome) := by
  simp only [applyFdr, sortRows, Sorted.mem_byKey, List.mem_mapIdx] at h
  obtain ⟨i, hi, rfl⟩ := h
  refine ⟨rows[i], List.getElem_mem hi, _, rfl, fun hq => ?_⟩
  obtain ⟨q, hq⟩ := Option.isSome_iff_exists.mp hq
  obtain ⟨s, hs, hp⟩ := qValues_pValue (Entries.mem_of_lookup hq)
  obtain rfl := Option.some.inj ((List.getElem?_eq_getElem hi).symm.trans hs)
  exact hp

/-- What the rows of the table of detector observations carry. -/
theorem detect_carries {metrics : List MetricRow} {rows : List Observation}
    (h : detect config metrics = .ok rows) (ho : o ∈ rows) :
    Carries config o ∧ (o.isAnomaly = true → o.qValue.isSome ∧ o.robustZ.isSome) := by
  simp only [detect, bind_eq_ok, pure_eq_ok] at h
  obtain ⟨scored, hscored, rfl⟩ := h
  rw [finalizeAlerts, Sorted.mem_byKey, List.mem_map] at ho
  obtain ⟨s, hs, rfl⟩ := ho
  obtain ⟨r, hr, q, rfl, hq⟩ := mem_applyFdr hs
  obtain ⟨hcarries, hnone⟩ := scoreSeries_carries hscored r hr
  cases q with
  | none =>
    refine ⟨⟨hcarries.robustZ, hcarries.relativeChange⟩, fun hanomaly => ?_⟩
    -- a row without a q-value is not significant
    simp [finalizeRow, supportsOf, Scored.withQ, hnone] at hanomaly
  | some q =>
    exact ⟨⟨hcarries.robustZ, hcarries.relativeChange⟩,
      fun _ => ⟨rfl, hcarries.robustZ (hq rfl)⟩⟩

/-- The expected value of a row is above the minimum scale of its baseline. -/
def AboveScale (config : DetectionConfig) (o : Observation) : Prop :=
  ∃ expected ∈ o.expectedValue, (config.baseline.forGrain o.timeGrain).minimumScale < |expected|

/-- `_build_events` on what the detector returns: each maximal run of anomalies
needs a member whose expected value is above the minimum scale. -/
theorem build_events_returns_iff {metrics : List MetricRow} {rows : List Observation}
    (h : detect config metrics = .ok rows) : (∃ result, buildEvents rows = .ok result) ↔
      ∀ seriesId front run back,
        part (·.seriesId) (anomaliesOf rows) seriesId = front ++ run ++ back →
          Maximal adjoins front run back → ∃ o ∈ run, AboveScale config o := by
  rw [buildEvents_returns]
  constructor
  · intro hgroups seriesId front run back hsplit hmax
    have hmem : run.head hmax.nonempty ∈ run := List.head_mem _
    obtain ⟨hrow, hanomaly, hs⟩ := Maximal.series_eq hsplit hmem
    have hgroup : run ∈ allGroups rows :=
      mem_allGroups.mpr ⟨_, mem_anomaliesOf.mpr ⟨hrow, hanomaly⟩, front, back, hs ▸ hsplit, hmax⟩
    obtain ⟨-, -, o, ho, hchange⟩ := hgroups run hgroup
    have hcarries := (detect_carries h (Maximal.series_eq hsplit ho).1).1
    exact ⟨o, ho, hcarries.relativeChange.mp hchange⟩
  · intro hruns group hgroup
    obtain ⟨first, -, front, back, hsplit, hmax⟩ := mem_allGroups.mp hgroup
    have hmembers : ∀ o ∈ group, Carries config o ∧ o.qValue.isSome ∧ o.robustZ.isSome := by
      intro o ho
      obtain ⟨hrow, hanomaly, -⟩ := Maximal.series_eq hsplit ho
      obtain ⟨hcarries, hsome⟩ := detect_carries h hrow
      exact ⟨hcarries, hsome hanomaly⟩
    obtain ⟨o, ho, habove⟩ := hruns _ front group back hsplit hmax
    have hhead := List.head_mem hmax.nonempty
    exact ⟨⟨_, hhead, (hmembers _ hhead).2.1⟩, fun o ho => (hmembers o ho).2.2, o, ho,
      (hmembers o ho).1.relativeChange.mpr habove⟩

end

-- ---------------------------------------------------------------------------
-- A count that was zero
-- ---------------------------------------------------------------------------

namespace Sample

def window : BaselineWindow where
  lookbackPeriods := 4
  minimumHistory := 3
  seasonalPeriods := 1
  minimumSeasonalHistory := 2
  minimumScale := 1 / 100
  relativeScaleFloor := 0

/-- Deployments also alert when there are at least five more or fewer. -/
def config : DetectionConfig where
  baseline := ⟨window, window⟩
  cusum := ⟨true, 1 / 2, 5⟩
  sequential := ⟨true, 1 / 4, 1⟩
  alertPolicy :=
    { fdrAlpha := 1 / 20, robustZThreshold := 3, minimumDetectorSupport := 2,
      minimumRelativeEffect := 1 / 10, minimumAbsoluteEffect := 5, minimumSampleSize := 1 }
  metricOverrides := []

theorem window_valid : window.Valid := by
  constructor <;> decide +kernel

theorem config_valid : config.Valid := by
  constructor
  case hour => exact window_valid
  case day => exact window_valid
  case cusum => decide +kernel
  case sequential => decide +kernel
  case alertPolicy => constructor <;> decide +kernel
  case metricOverrides => exact fun _ h => nomatch h
  case unique => exact List.nodup_nil

/-- The number of deployments of one hour. -/
def deployments (hour : Nat) (count : Nat) : MetricRow where
  seriesId := "deployments"
  metricName := "deployment_count"
  displayName := "Deployments"
  domain := "operations"
  metricType := "count"
  unit := "deployments"
  higherIsBetter := none
  timeGrain := .hour
  periodStart := hour * periodDelta .hour
  periodEnd := hour * periodDelta .hour + periodDelta .hour
  cohortName := "global"
  dimensionCount := 0
  dimensions := []
  value := some count
  numerator := none
  denominator := none
  sampleSize := some count
  qualityStatus := some "ok"
  scenarioId := none

/-- Three hours without deployments, then twelve of them. -/
def metrics : List MetricRow :=
  [deployments 1 0, deployments 2 0, deployments 3 0, deployments 4 12]

end Sample

attribute [local instance] exactMath Sample.periodText

theorem Sample.detected : ∃ rows, detect Sample.config Sample.metrics = .ok rows := by
  have hdetect : (detect Sample.config Sample.metrics).isOk = true := by decide +kernel
  cases h : detect Sample.config Sample.metrics with
  | ok rows => exact ⟨rows, rfl⟩
  | error e =>
    rw [h] at hdetect
    contradiction

theorem build_events_returns_sample : ∃ rows, detect Sample.config Sample.metrics = .ok rows ∧
    ((∃ result, buildEvents rows = .ok result) ↔ ∀ seriesId front run back,
      part (·.seriesId) (anomaliesOf rows) seriesId = front ++ run ++ back →
        Maximal adjoins front run back → ∃ o ∈ run, AboveScale Sample.config o) := by
  obtain ⟨rows, h⟩ := Sample.detected
  exact ⟨rows, h, build_events_returns_iff h⟩

/-- Twelve deployments after none are an anomaly without a relative change. -/
theorem events_fail : Sample.config.Valid ∧
    ∃ rows, detect Sample.config Sample.metrics = .ok rows ∧
      buildEvents rows = .error (.valueError "max() iterable argument is empty") := by
  have hbuild : detect Sample.config Sample.metrics >>= buildEvents =
      .error (.valueError "max() iterable argument is empty") := by decide +kernel
  obtain ⟨rows, h⟩ := Sample.detected
  rw [h] at hbuild
  exact ⟨Sample.config_valid, rows, h, hbuild⟩

end Paic.Detection
