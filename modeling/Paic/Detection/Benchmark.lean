import Paic.Detection.EventGate
import Paic.Detection.Injection

/-!
# The benchmark of a run

`_evaluate_benchmark` compares the scored observations with the ground truth.
Scenario labels survive the scoring, so that its counts add up to those of the
observations and of the injected points.
-/

namespace Paic.Detection

open Checks (raiseIf need bind_eq_ok pure_eq_ok)
open DetectionMath (add div)
open Partition (parts part)
open Sorted (byKey)

/-- A row of the table `benchmark_results`. -/
structure BenchmarkResult where
  scenarioId : String
  detected : Bool
  firstDetectedAt : Option Instant
  detectionDelayPeriods : Option Int
  expectedDirection : Direction
  directionMatch : Bool
  truePositivePoints : Nat
  falseNegativePoints : Nat
  peakEvidenceScore : Option Rat
  matchedEventId : Option String
  deriving DecidableEq, Repr

/-- The row of the table `benchmark_summary`. -/
structure BenchmarkSummary where
  scenarioCount : Nat
  scenariosDetected : Nat
  observationTruePositives : Nat
  observationFalsePositives : Nat
  observationFalseNegatives : Nat
  eligibleNonScenarioPoints : Nat
  precision : Rat
  scenarioRecall : Rat
  pointRecall : Rat
  falsePositiveRate : Rat
  meanDetectionDelayPeriods : Option Rat
  medianDetectionDelayPeriods : Option Rat
  deriving DecidableEq, Repr

/-- The observations of a scenario. -/
def targetOf (observations : List Observation) (scenarioId : String) : List Observation :=
  part (·.scenarioId) observations (some scenarioId)

def alertsOf (observations : List Observation) (scenarioId : String) : List Observation :=
  byKey (·.periodStart) ((targetOf observations scenarioId).filter (·.isAnomaly))

/-- `matched_event` -/
def matchedEvent (t : GroundTruth) (alerts : List Observation) (events : List AnomalyEvent) :
    Option String :=
  alerts.head?.bind fun first =>
    (byKey (·.startedAt) (events.filter fun e => decide (e.seriesId = first.seriesId ∧
      e.startedAt < t.endedAt ∧ t.startedAt < e.endedAt))).head?.map (·.eventId)

/-- The row that is written for a scenario. The delay is `int` of the quotient
of two durations. -/
def resultOf (observations : List Observation) (events : List AnomalyEvent) (t : GroundTruth) :
    BenchmarkResult :=
  let alerts := alertsOf observations t.scenarioId
  let firstDetected := (alerts.map (·.periodStart)).min?
  { scenarioId := t.scenarioId
    detected := !alerts.isEmpty
    firstDetectedAt := firstDetected
    detectionDelayPeriods := firstDetected.map fun first =>
      (first - t.startedAt).tdiv (periodDelta t.timeGrain)
    expectedDirection := t.expectedDirection
    directionMatch := alerts.any fun o => o.direction = t.expectedDirection
    truePositivePoints := alerts.length
    falseNegativePoints := (targetOf observations t.scenarioId).length - alerts.length
    peakEvidenceScore := (alerts.map (·.evidenceScore)).max?
    matchedEventId := matchedEvent t alerts events }

section
variable [DetectionMath]

/-- `a / b` of two counts, and zero when there is nothing to divide by. -/
def rateOf (a b : Nat) : Rat := if b = 0 then 0 else div a b

def falsePositives (observations : List Observation) : Nat :=
  (observations.filter fun o => o.isAnomaly && o.scenarioId.isNone).length

def eligibleNonScenario (observations : List Observation) : Nat :=
  (observations.filter fun o => o.isEligible && o.scenarioId.isNone).length

def summaryOf (observations : List Observation) (truth : List GroundTruth)
    (results : List BenchmarkResult) : BenchmarkSummary :=
  let truePositives := (results.map (·.truePositivePoints)).sum
  let falseNegatives := (results.map (·.falseNegativePoints)).sum
  let scenariosDetected := results.countP (·.detected)
  let delays := (results.filterMap (·.detectionDelayPeriods)).map fun (d : Int) => (d : Rat)
  { scenarioCount := truth.length
    scenariosDetected
    observationTruePositives := truePositives
    observationFalsePositives := falsePositives observations
    observationFalseNegatives := falseNegatives
    eligibleNonScenarioPoints := eligibleNonScenario observations
    precision := rateOf truePositives (truePositives + falsePositives observations)
    scenarioRecall := div scenariosDetected truth.length
    pointRecall := rateOf truePositives (truePositives + falseNegatives)
    falsePositiveRate := rateOf (falsePositives observations) (eligibleNonScenario observations)
    meanDetectionDelayPeriods := if delays = [] then none
      else some (div delays.sum delays.length)
    medianDetectionDelayPeriods := Median.middle (fun a b => div (add a b) 2) delays }

/-- `_evaluate_benchmark`; without scenarios both tables are empty. -/
def evaluateBenchmark (truth : List GroundTruth) (observations : List Observation)
    (events : List AnomalyEvent) : List BenchmarkResult × Option BenchmarkSummary :=
  if truth = [] then ([], none)
  else
    let results := byKey (·.scenarioId) (truth.map (resultOf observations events))
    (results, some (summaryOf observations truth results))

variable [Hashing] [PeriodText]

/-- The tables of a run. -/
structure DetectionTables where
  injected : List MetricRow
  truth : List GroundTruth
  observations : List Observation
  events : List AnomalyEvent
  changes : List ChangePoint
  results : List BenchmarkResult
  summary : Option BenchmarkSummary

/-- `build_detection` from the selected metrics to the benchmark. -/
def buildDetection (config : DetectionConfig) (scenarios : List BenchmarkScenario)
    (selected : List MetricRow) : Except Error DetectionTables := do
  let (injected, truth) ← applyBenchmarkScenarios selected scenarios
  let observations ← detect config injected
  let (events, changes) ← buildEvents observations
  let (results, summary) := evaluateBenchmark truth observations events
  pure { injected, truth, observations, events, changes, results, summary }

end

-- ---------------------------------------------------------------------------
-- Labels of the injected rows
-- ---------------------------------------------------------------------------

section
variable [DetectionMath] {rows : List MetricRow} {scenarios : List BenchmarkScenario}
  {state : Injection}

theorem PerturbedAt.label {s : BenchmarkScenario} (h : PerturbedAt rows table s k i) :
    ∃ row', table[i]? = some row' ∧ row'.scenarioId = some s.scenarioId := by
  obtain ⟨row, row', definition, -, hrow', -, hperturbed⟩ := h
  exact ⟨row', hrow', (perturbedRow_frame hperturbed).2⟩

theorem InjectedBy.label (h : InjectedBy rows scenarios state) {s : BenchmarkScenario}
    (hs : s ∈ scenarios) (hi : i ∈ matching rows s) :
    ∃ row', state.rows[i]? = some row' ∧ row'.scenarioId = some s.scenarioId := by
  obtain ⟨k, hk⟩ := List.mem_iff_getElem?.mp hi
  exact (h.touched s hs k i hk).label

/-- A label is that of a scenario that matches the row. -/
theorem InjectedBy.labelled (h : InjectedBy rows scenarios state)
    (hplain : ∀ row ∈ rows, row.scenarioId = none) (hi : state.rows[i]? = some row')
    (hid : row'.scenarioId = some scenarioId) :
    ∃ s ∈ scenarios, s.scenarioId = scenarioId ∧ i ∈ matching rows s := by
  by_cases htouched : ∃ s ∈ scenarios, i ∈ matching rows s
  · obtain ⟨s, hs, hmem⟩ := htouched
    obtain ⟨row, hrow, hlabel⟩ := h.label hs hmem
    obtain rfl := Option.some.inj (hrow.symm.trans hi)
    exact ⟨s, hs, Option.some.inj (hlabel.symm.trans hid), hmem⟩
  · have hsame := h.untouched i fun s hs hmem => htouched ⟨s, hs, hmem⟩
    rw [hi] at hsame
    rw [hplain row' (List.mem_of_getElem? hsame.symm)] at hid
    contradiction

/-- A labelled row is in the window of its scenario. -/
theorem InjectedBy.window (h : InjectedBy rows scenarios state)
    (hplain : ∀ row ∈ rows, row.scenarioId = none) (hrow : row' ∈ state.rows)
    (hid : row'.scenarioId = some scenarioId) : ∃ s ∈ scenarios, s.scenarioId = scenarioId ∧
      s.startAt ≤ row'.periodStart ∧ row'.periodStart < s.endAt := by
  obtain ⟨i, hi⟩ := List.mem_iff_getElem?.mp hrow
  obtain ⟨s, hs, hname, hmem⟩ := h.labelled hplain hi hid
  rw [← matching_congr s h.frames] at hmem
  obtain ⟨row, hsame, hmask⟩ := mem_matching.mp hmem
  obtain rfl := Option.some.inj (hsame.symm.trans hi)
  exact ⟨s, hs, hname, (scenarioMask_true hmask).2.2.2⟩

/-- As many rows are labelled with a scenario as it lasts periods. -/
theorem InjectedBy.points (h : InjectedBy rows scenarios state)
    (hplain : ∀ row ∈ rows, row.scenarioId = none)
    (hids : (scenarios.map (·.scenarioId)).Nodup) {s : BenchmarkScenario} (hs : s ∈ scenarios) :
    (part (·.scenarioId) state.rows (some s.scenarioId)).length = s.durationPeriods := by
  have hlength : state.rows.length = rows.length := by
    simpa using congrArg List.length h.frames
  have hplaces := congrArg List.length (Partition.filter_places
    (fun row : MetricRow => decide (row.scenarioId = some s.scenarioId)) state.rows)
  rw [List.length_map, List.length_map] at hplaces
  rw [part, ← hplaces, ← h.counts s hs, matching, hlength]
  congr 1
  refine List.filter_congr fun i _ => ?_
  rw [Bool.eq_iff_iff, Option.any_eq_true, Option.any_eq_true]
  constructor
  · rintro ⟨row', hi, hid⟩
    rw [decide_eq_true_eq] at hid
    obtain ⟨s', hs', hname, hmem⟩ := h.labelled hplain hi hid
    obtain rfl := List.inj_on_of_nodup_map hids hs' hs hname
    exact mem_matching.mp hmem
  · intro hmatch
    obtain ⟨row', hrow', hlabel⟩ := h.label hs (mem_matching.mpr hmatch)
    exact ⟨row', hrow', decide_eq_true hlabel⟩

end

-- ---------------------------------------------------------------------------
-- Labels of the observations
-- ---------------------------------------------------------------------------

/-- What the scoring keeps of a row. -/
def MetricRow.place (row : MetricRow) : String × Instant × Option String :=
  (row.seriesId, row.periodStart, row.scenarioId)

def Observation.place (o : Observation) : String × Instant × Option String :=
  (o.seriesId, o.periodStart, o.scenarioId)

section
variable [DetectionMath] [Hashing] [PeriodText] {config : DetectionConfig}

theorem scoreRows_places {setup : SeriesSetup} {output : List Scored}
    (h : scoreRows config setup state rows = .ok output) :
    output.map (fun s => s.row.place) = rows.map MetricRow.place := by
  induction rows generalizing state output with
  | nil =>
    obtain rfl : [] = output := pure_eq_ok.mp h
    rfl
  | cons source rest ih =>
    simp only [scoreRows, scoreRow, bind_eq_ok, pure_eq_ok] at h
    obtain ⟨-, ⟨deviation, -, detected, -, rfl⟩, output, houtput, rfl⟩ := h
    rw [List.map_cons, List.map_cons, ih houtput]
    rfl

theorem scorePartition_places {partition : List MetricRow} {output : List Scored}
    (h : scorePartition config partition = .ok output) :
    (output.map fun s => s.row.place).Perm (partition.map MetricRow.place) := by
  have hperm := (Sorted.byKey_perm (fun r : MetricRow => r.periodStart) partition).map
    MetricRow.place
  rw [scorePartition] at h
  split at h
  next hsorted =>
    rw [hsorted] at hperm
    rw [← pure_eq_ok.mp h]
    exact hperm
  next first rest hsorted =>
    obtain ⟨setup, -, hrows⟩ := bind_eq_ok.mp h
    rw [hsorted] at hperm
    rw [scoreRows_places hrows]
    exact hperm

theorem scoreSeries_places {metrics : List MetricRow} {scored : List Scored}
    (h : scoreSeries config metrics = .ok scored) :
    (scored.map fun s => s.row.place).Perm (metrics.map MetricRow.place) := by
  simp only [scoreSeries, bind_eq_ok, pure_eq_ok] at h
  obtain ⟨output, houtput, -, -, rfl⟩ := h
  have hflatten : ∀ {parts : List (List MetricRow)} {output : List (List Scored)},
      parts.mapM (scorePartition config) = .ok output →
        (output.flatten.map fun s => s.row.place).Perm (parts.flatten.map MetricRow.place) := by
    intro parts output h
    rw [Checks.mapM_ok] at h
    induction h with
    | nil => exact .refl _
    | cons hpart _ ih =>
      rw [List.flatten_cons, List.flatten_cons, List.map_append, List.map_append]
      exact (scorePartition_places hpart).append ih
  exact ((Sorted.byKey_perm _ _).map _).trans ((hflatten houtput).trans
    ((Partition.flatten_parts_perm _ _).map _))

omit [Hashing] [PeriodText] in
theorem applyFdr_places (rows : List Scored) :
    ((applyFdr rows).map fun s => s.row.place).Perm (rows.map fun s => s.row.place) := by
  have hkeep : ∀ (s : Scored) (q : Option Rat), (s.withQ q).row.place = s.row.place := by
    intro s q
    cases q <;> rfl
  have hmap : (rows.mapIdx fun i s => s.withQ ((qValues rows).lookup i)).map
      (fun s => s.row.place) = rows.map fun s => s.row.place := by
    refine List.ext_getElem (by simp) fun i hi hi' => ?_
    rw [List.getElem_map, List.getElem_map, List.getElem_mapIdx, hkeep]
  rw [← hmap]
  exact (Sorted.byKey_perm _ _).map _

/-- Every row of the metrics is one observation, of its series, period and
scenario. -/
theorem detect_places {metrics : List MetricRow} {observations : List Observation}
    (h : detect config metrics = .ok observations) :
    (observations.map Observation.place).Perm (metrics.map MetricRow.place) := by
  simp only [detect, bind_eq_ok, pure_eq_ok] at h
  obtain ⟨scored, hscored, rfl⟩ := h
  have hfinal : ((applyFdr scored).map (finalizeRow config)).map Observation.place =
      (applyFdr scored).map fun s => s.row.place := by
    rw [List.map_map]
    rfl
  refine ((Sorted.byKey_perm _ _).map _).trans ?_
  rw [hfinal]
  exact (applyFdr_places scored).trans (scoreSeries_places hscored)

omit [Hashing] [PeriodText] in
theorem finalizeRow_eligible (s : Scored) (h : (finalizeRow config s).isAnomaly = true) :
    (finalizeRow config s).isEligible = true := by
  simp only [finalizeRow, Bool.and_eq_true] at h ⊢
  exact h.1.1.1

theorem detect_eligible {metrics : List MetricRow} {observations : List Observation}
    (h : detect config metrics = .ok observations) (ho : o ∈ observations)
    (hanomaly : o.isAnomaly = true) : o.isEligible = true := by
  simp only [detect, bind_eq_ok, pure_eq_ok] at h
  obtain ⟨scored, -, rfl⟩ := h
  rw [finalizeAlerts, Sorted.mem_byKey, List.mem_map] at ho
  obtain ⟨s, -, rfl⟩ := ho
  exact finalizeRow_eligible s hanomaly

end

-- ---------------------------------------------------------------------------
-- The accounts
-- ---------------------------------------------------------------------------

/-- The quotient of a count by a count that is no smaller is a rate. -/
def UnitQuotients [DetectionMath] : Prop :=
  ∀ a b : Nat, a ≤ b → 0 < b → 0 ≤ div a b ∧ div a b ≤ 1

/-- The benchmark of a run adds up. -/
structure BenchmarkAccounts (scenarios : List BenchmarkScenario) (t : DetectionTables)
    (summary : BenchmarkSummary) : Prop where
  results : (t.results.map (·.scenarioId)).Perm (scenarios.map (·.scenarioId))
  anomalies : summary.observationTruePositives + summary.observationFalsePositives =
    (t.observations.filter (·.isAnomaly)).length
  points : summary.observationTruePositives + summary.observationFalseNegatives =
    (t.truth.map (·.injectedPoints)).sum
  counted : ∀ r ∈ t.results, r.truePositivePoints =
    (t.observations.filter fun o => o.isAnomaly && o.scenarioId = some r.scenarioId).length
  once : ∀ o ∈ t.observations, ∀ scenarioId ∈ o.scenarioId,
    ∃! r, r ∈ t.results ∧ r.scenarioId = scenarioId
  precision : 0 ≤ summary.precision ∧ summary.precision ≤ 1
  scenarioRecall : 0 ≤ summary.scenarioRecall ∧ summary.scenarioRecall ≤ 1
  pointRecall : 0 ≤ summary.pointRecall ∧ summary.pointRecall ≤ 1
  falsePositiveRate : 0 ≤ summary.falsePositiveRate ∧ summary.falsePositiveRate ≤ 1
  detected : ∀ r ∈ t.results, r.detected = true ↔
    ∃ o ∈ t.observations, o.scenarioId = some r.scenarioId ∧ o.isAnomaly = true
  delays : ∀ r ∈ t.results, ∀ s ∈ scenarios, s.scenarioId = r.scenarioId →
    ∀ delay ∈ r.detectionDelayPeriods, 0 ≤ delay ∧ delay ≤ s.durationPeriods - 1

theorem mem_alertsOf {observations : List Observation} : o ∈ alertsOf observations scenarioId ↔
    o ∈ observations ∧ o.scenarioId = some scenarioId ∧ o.isAnomaly = true := by
  rw [alertsOf, Sorted.mem_byKey, List.mem_filter, targetOf, Partition.mem_part, and_assoc]

/-- The alerts of a scenario are its part of the anomalies. -/
theorem alertsOf_length (observations : List Observation) (scenarioId : String) :
    (alertsOf observations scenarioId).length =
      (part (·.scenarioId) (observations.filter (·.isAnomaly)) (some scenarioId)).length := by
  rw [alertsOf, (Sorted.byKey_perm _ _).length_eq, targetOf, part, part, List.filter_filter,
    List.filter_filter]
  congr 1
  exact List.filter_congr fun o _ => Bool.and_comm ..

theorem resultOf_points (observations : List Observation) (events : List AnomalyEvent)
    (t : GroundTruth) : (resultOf observations events t).truePositivePoints +
      (resultOf observations events t).falseNegativePoints =
        (targetOf observations t.scenarioId).length := by
  have hle : (alertsOf observations t.scenarioId).length ≤
      (targetOf observations t.scenarioId).length := by
    rw [alertsOf, (Sorted.byKey_perm _ _).length_eq]
    exact List.length_filter_le _ _
  change (alertsOf observations t.scenarioId).length + (_ - _) = _
  omega

theorem resultOf_detected {observations : List Observation} (events : List AnomalyEvent)
    (t : GroundTruth) : (resultOf observations events t).detected = true ↔
      ∃ o ∈ observations, o.scenarioId = some t.scenarioId ∧ o.isAnomaly = true := by
  simp only [resultOf, Bool.not_eq_true', List.isEmpty_eq_false_iff_exists_mem, mem_alertsOf]

/-- The first alert is in the window, so its delay is a number of whole periods
before the end. -/
theorem resultOf_delay {observations : List Observation} (events : List AnomalyEvent)
    {s : BenchmarkScenario} (hwindow : ∀ o ∈ alertsOf observations s.scenarioId,
      s.startAt ≤ o.periodStart ∧ o.periodStart < s.endAt)
    (h : delay ∈ (resultOf observations events (truthRow s n)).detectionDelayPeriods) :
    0 ≤ delay ∧ delay ≤ s.durationPeriods - 1 := by
  obtain ⟨first, hfirst, rfl⟩ := Option.map_eq_some_iff.mp h
  have hfirst : first ∈ (alertsOf observations s.scenarioId).map (·.periodStart) :=
    List.min?_mem hfirst
  obtain ⟨o, ho, rfl⟩ := List.mem_map.mp hfirst
  obtain ⟨hlow, hhigh⟩ := hwindow o ho
  have hpos := periodDelta_pos s.timeGrain
  change 0 ≤ (o.periodStart - s.startAt).tdiv (periodDelta s.timeGrain) ∧
    (o.periodStart - s.startAt).tdiv (periodDelta s.timeGrain) ≤ s.durationPeriods - 1
  rw [BenchmarkScenario.endAt] at hhigh
  have helapsed : 0 ≤ o.periodStart - s.startAt := Int.sub_nonneg_of_le hlow
  rw [Int.tdiv_eq_ediv_of_nonneg helapsed]
  refine ⟨Int.ediv_nonneg helapsed (le_of_lt hpos), Int.le_sub_one_of_lt ?_⟩
  exact Int.ediv_lt_of_lt_mul hpos (Int.sub_left_lt_of_lt_add hhigh)

section
variable [DetectionMath] [Hashing] [PeriodText] {config : DetectionConfig}
  {scenarios : List BenchmarkScenario} {selected : List MetricRow} {t : DetectionTables}

/-- What a run with scenarios went through. -/
structure BenchmarkRun (scenarios : List BenchmarkScenario) (t : DetectionTables) : Prop where
  truth : t.truth.Perm (scenarios.map fun s => truthRow s s.durationPeriods)
  results : t.results.Perm (scenarios.map fun s =>
    resultOf t.observations t.events (truthRow s s.durationPeriods))
  summary : t.summary = some (summaryOf t.observations t.truth t.results)
  windows : ∀ o ∈ t.observations, ∀ scenarioId, o.scenarioId = some scenarioId →
    ∃ s ∈ scenarios, s.scenarioId = scenarioId ∧ s.startAt ≤ o.periodStart ∧
      o.periodStart < s.endAt
  points : (scenarios.map (·.scenarioId)).Nodup → ∀ s ∈ scenarios,
    (targetOf t.observations s.scenarioId).length = s.durationPeriods
  eligible : ∀ o ∈ t.observations, o.isAnomaly = true → o.isEligible = true

omit [DetectionMath] [Hashing] [PeriodText] in
theorem length_part_places {l : List Observation} {l' : List MetricRow}
    (h : (l.map Observation.place).Perm (l'.map MetricRow.place)) (scenarioId : Option String) :
    (part (·.scenarioId) l scenarioId).length = (part (·.scenarioId) l' scenarioId).length := by
  have hcount := h.countP_eq fun place => decide (place.2.2 = scenarioId)
  rw [List.countP_map, List.countP_map, List.countP_eq_length_filter,
    List.countP_eq_length_filter] at hcount
  exact hcount

theorem buildDetection_run (hne : scenarios ≠ [])
    (h : buildDetection config scenarios selected = .ok t) : BenchmarkRun scenarios t := by
  simp only [buildDetection, bind_eq_ok, pure_eq_ok] at h
  obtain ⟨⟨injected, truth⟩, hinjected, observations, hobservations, ⟨events, changes⟩, -, rfl⟩ := h
  obtain ⟨state, hstate, rfl, rfl⟩ := applyBenchmarkScenarios_ok hne hinjected
  have hplain : ∀ row ∈ selected.map MetricRow.plain, row.scenarioId = none := by
    intro row hrow
    obtain ⟨source, -, rfl⟩ := List.mem_map.mp hrow
    rfl
  have hsorted := Sorted.byKey_perm GroundTruth.scenarioId state.truth
  rw [hstate.truth] at hsorted
  have htruth : byKey GroundTruth.scenarioId state.truth ≠ [] := by
    intro hnil
    have hlength := hsorted.length_eq
    rw [← hstate.truth, hnil, hstate.truth, List.length_map, List.length_nil] at hlength
    exact hne (List.length_eq_zero_iff.mp hlength.symm)
  have hplaces := (detect_places hobservations).trans
    ((Sorted.byKey_perm MetricRow.key state.rows).map MetricRow.place)
  have hrows : evaluateBenchmark (byKey GroundTruth.scenarioId state.truth) observations events =
      (byKey (·.scenarioId) ((byKey GroundTruth.scenarioId state.truth).map
        (resultOf observations events)), some (summaryOf observations
          (byKey GroundTruth.scenarioId state.truth) (byKey (·.scenarioId)
            ((byKey GroundTruth.scenarioId state.truth).map (resultOf observations events))))) :=
    if_neg htruth
  rw [hrows]
  constructor
  case truth =>
    change (byKey GroundTruth.scenarioId state.truth).Perm _
    rwa [hstate.truth]
  case results =>
    refine (Sorted.byKey_perm _ _).trans ?_
    rw [hstate.truth]
    have hmap := hsorted.map (resultOf observations events)
    rwa [List.map_map] at hmap
  case summary => rfl
  case windows =>
    intro o ho scenarioId hid
    have hplace : o.place ∈ state.rows.map MetricRow.place :=
      hplaces.mem_iff.mp (List.mem_map_of_mem ho)
    obtain ⟨row, hrow, hsame⟩ := List.mem_map.mp hplace
    rw [MetricRow.place, Observation.place, Prod.mk.injEq, Prod.mk.injEq] at hsame
    obtain ⟨-, hperiod, hlabel⟩ := hsame
    rw [← hperiod]
    exact hstate.window hplain hrow (hlabel.trans hid)
  case points =>
    intro hids s hs
    rw [← hstate.points hplain hids hs]
    exact length_part_places hplaces _
  case eligible => exact fun o ho => detect_eligible hobservations ho

end

-- ---------------------------------------------------------------------------
-- The sums
-- ---------------------------------------------------------------------------

section
variable {scenarios : List BenchmarkScenario} {observations : List Observation}

/-- The results of the scenarios, in the order of the configuration. -/
theorem sum_truePositives (events : List AnomalyEvent) (scenarios : List BenchmarkScenario) :
    ((scenarios.map fun s => resultOf observations events (truthRow s s.durationPeriods)).map
      (·.truePositivePoints)).sum = ((scenarios.map fun s => some s.scenarioId).map fun k =>
        (part (·.scenarioId) (observations.filter (·.isAnomaly)) k).length).sum := by
  rw [List.map_map, List.map_map]
  congr 1
  refine List.map_congr_left fun s _ => ?_
  exact alertsOf_length observations s.scenarioId

theorem sum_points (events : List AnomalyEvent) {scenarios : List BenchmarkScenario}
    (hpoints : ∀ s ∈ scenarios, (targetOf observations s.scenarioId).length = s.durationPeriods) :
    ((scenarios.map fun s => resultOf observations events (truthRow s s.durationPeriods)).map
      (·.truePositivePoints)).sum +
      ((scenarios.map fun s => resultOf observations events (truthRow s s.durationPeriods)).map
        (·.falseNegativePoints)).sum = (scenarios.map (·.durationPeriods)).sum := by
  induction scenarios with
  | nil => rfl
  | cons s scenarios ih =>
    rw [List.forall_mem_cons] at hpoints
    have hrest := ih hpoints.2
    have hfirst := resultOf_points observations events (truthRow s s.durationPeriods)
    change _ = (targetOf observations s.scenarioId).length at hfirst
    rw [hpoints.1] at hfirst
    simp only [List.map_cons, List.sum_cons] at hrest ⊢
    omega

theorem falsePositives_part (observations : List Observation) :
    falsePositives observations =
      (part (·.scenarioId) (observations.filter (·.isAnomaly)) none).length := by
  rw [falsePositives, part, List.filter_filter]
  congr 1
  refine List.filter_congr fun o _ => ?_
  rw [Bool.and_comm]
  cases o.scenarioId <;> rfl

/-- Every anomaly is an alert of one scenario or a false positive. -/
theorem sum_anomalies (hids : (scenarios.map (·.scenarioId)).Nodup)
    (hlabels : ∀ o ∈ observations, ∀ scenarioId, o.scenarioId = some scenarioId →
      ∃ s ∈ scenarios, s.scenarioId = scenarioId) :
    falsePositives observations + ((scenarios.map fun s => some s.scenarioId).map fun k =>
      (part (·.scenarioId) (observations.filter (·.isAnomaly)) k).length).sum =
        (observations.filter (·.isAnomaly)).length := by
  have hkeys : (none :: scenarios.map fun s => some s.scenarioId).Nodup := by
    rw [List.nodup_cons]
    refine ⟨fun hmem => ?_, ?_⟩
    · obtain ⟨s, -, hs⟩ := List.mem_map.mp hmem
      contradiction
    · have hsome := hids.map (Option.some_injective String)
      rwa [List.map_map] at hsome
  have hcovered : ∀ o ∈ observations.filter (·.isAnomaly),
      o.scenarioId ∈ none :: scenarios.map fun s => some s.scenarioId := by
    intro o ho
    cases hid : o.scenarioId with
    | none => exact List.mem_cons_self
    | some scenarioId =>
      obtain ⟨s, hs, hname⟩ := hlabels o (List.mem_filter.mp ho).1 scenarioId hid
      exact List.mem_cons_of_mem _ (List.mem_map.mpr ⟨s, hs, congrArg some hname⟩)
  have hsum := Partition.sum_length_part hkeys hcovered
  rwa [List.map_cons, List.sum_cons, ← falsePositives_part] at hsum

/-- A false positive is eligible. -/
theorem falsePositives_le
    (heligible : ∀ o ∈ observations, o.isAnomaly = true → o.isEligible = true) :
    falsePositives observations ≤ eligibleNonScenario observations := by
  rw [falsePositives, eligibleNonScenario, ← List.countP_eq_length_filter,
    ← List.countP_eq_length_filter]
  refine List.countP_mono_left fun o ho h => ?_
  rw [Bool.and_eq_true] at h ⊢
  exact ⟨heligible o ho h.1, h.2⟩

theorem rateOf_mem [DetectionMath] (hquotients : UnitQuotients) (h : a ≤ b) :
    0 ≤ rateOf a b ∧ rateOf a b ≤ 1 := by
  unfold rateOf
  split
  · exact ⟨le_rfl, zero_le_one⟩
  next hb => exact hquotients a b h (Nat.pos_of_ne_zero hb)

end

section
variable {scenarios : List BenchmarkScenario} {t : DetectionTables}

theorem BenchmarkRun.ids [DetectionMath] (run : BenchmarkRun scenarios t) :
    (t.results.map (·.scenarioId)).Perm (scenarios.map (·.scenarioId)) := by
  have hids := run.results.map (·.scenarioId)
  rwa [List.map_map] at hids

/-- A row of the results is that of a scenario. -/
theorem BenchmarkRun.result [DetectionMath] (run : BenchmarkRun scenarios t) (hr : r ∈ t.results) :
    ∃ s ∈ scenarios, resultOf t.observations t.events (truthRow s s.durationPeriods) = r :=
  List.mem_map.mp (run.results.mem_iff.mp hr)

variable [DetectionMath] [Hashing] [PeriodText] {config : DetectionConfig}
  {selected : List MetricRow}

/-- The counts of the three tables agree. The ids of the scenarios of a
configuration are unique. -/
theorem benchmark_accounts (hquotients : UnitQuotients) (hne : scenarios ≠ [])
    (hids : (scenarios.map (·.scenarioId)).Nodup)
    (h : buildDetection config scenarios selected = .ok t) :
    ∃ summary, t.summary = some summary ∧ BenchmarkAccounts scenarios t summary := by
  have run := buildDetection_run hne h
  have hlabels : ∀ o ∈ t.observations, ∀ scenarioId, o.scenarioId = some scenarioId →
      ∃ s ∈ scenarios, s.scenarioId = scenarioId := by
    intro o ho scenarioId hid
    obtain ⟨s, hs, hname, -⟩ := run.windows o ho scenarioId hid
    exact ⟨s, hs, hname⟩
  have htp := (run.results.map (·.truePositivePoints)).sum_eq
  have hfn := (run.results.map (·.falseNegativePoints)).sum_eq
  have htruth := (run.truth.map (·.injectedPoints)).sum_eq
  have hsum := sum_points t.events (run.points hids)
  have hanomalies := sum_anomalies hids hlabels
  rw [List.map_map] at htruth
  rw [← sum_truePositives t.events scenarios, ← htp] at hanomalies
  rw [← htp, ← hfn] at hsum
  have hlength : t.truth.length = t.results.length := by
    rw [run.truth.length_eq, run.results.length_eq, List.length_map, List.length_map]
  have hdetected : t.results.countP (·.detected) ≤ t.truth.length :=
    le_of_le_of_eq List.countP_le_length hlength.symm
  have htruthPos : 0 < t.truth.length := by
    rw [run.truth.length_eq, List.length_map]
    exact List.length_pos_iff.mpr hne
  refine ⟨_, run.summary, ?_⟩
  constructor
  case results => exact run.ids
  case anomalies => exact (Nat.add_comm ..).trans hanomalies
  case points => exact hsum.trans htruth.symm
  case counted =>
    intro r hr
    obtain ⟨s, -, rfl⟩ := run.result hr
    refine (alertsOf_length t.observations s.scenarioId).trans ?_
    rw [part, List.filter_filter]
    congr 1
    exact List.filter_congr fun o _ => Bool.and_comm ..
  case once =>
    intro o ho scenarioId hid
    obtain ⟨s, hs, hname⟩ := hlabels o ho scenarioId hid
    have hnodup : (t.results.map (·.scenarioId)).Nodup := run.ids.nodup_iff.mpr hids
    have hmem : scenarioId ∈ t.results.map (·.scenarioId) :=
      run.ids.mem_iff.mpr (List.mem_map.mpr ⟨s, hs, hname⟩)
    obtain ⟨r, hr, hrid⟩ := List.mem_map.mp hmem
    refine ⟨r, ⟨hr, hrid⟩, ?_⟩
    rintro r' ⟨hr', hrid'⟩
    exact List.inj_on_of_nodup_map hnodup hr' hr (hrid'.trans hrid.symm)
  case precision => exact rateOf_mem hquotients (Nat.le_add_right ..)
  case scenarioRecall => exact hquotients _ _ hdetected htruthPos
  case pointRecall => exact rateOf_mem hquotients (Nat.le_add_right ..)
  case falsePositiveRate => exact rateOf_mem hquotients (falsePositives_le run.eligible)
  case detected =>
    intro r hr
    obtain ⟨s, -, rfl⟩ := run.result hr
    exact resultOf_detected t.events (truthRow s s.durationPeriods)
  case delays =>
    intro r hr s hs hname delay hdelay
    obtain ⟨s', hs', rfl⟩ := run.result hr
    obtain rfl := List.inj_on_of_nodup_map hids hs hs' hname
    refine resultOf_delay t.events (fun o ho => ?_) hdelay
    obtain ⟨hmem, hid, -⟩ := mem_alertsOf.mp ho
    obtain ⟨s', hs', hname', hwindow⟩ := run.windows o hmem _ hid
    obtain rfl := List.inj_on_of_nodup_map hids hs' hs hname'
    exact hwindow

end

attribute [local instance] exactMath Sample.periodText

theorem exactMath_unitQuotients : UnitQuotients := by
  intro a b hle hpos
  have hb : (0 : Rat) < b := by exact_mod_cast hpos
  have hab : (a : Rat) ≤ b := by exact_mod_cast hle
  change 0 ≤ (a : Rat) / b ∧ (a : Rat) / b ≤ 1
  exact ⟨div_nonneg (by exact_mod_cast Nat.zero_le a) (le_of_lt hb), (div_le_one hb).mpr hab⟩

/-- Four hours of a region, with a drop in the last one. -/
theorem benchmark_accounts_sample : ∃ t summary,
    buildDetection Sample.config [Sample.ordersDrop [("region", "south")] 4 1]
      ([1, 2, 3, 4].map fun hour => Sample.regionOrders "south" hour 100) = .ok t ∧
    t.summary = some summary ∧
    BenchmarkAccounts [Sample.ordersDrop [("region", "south")] 4 1] t summary := by
  have hok : (buildDetection Sample.config [Sample.ordersDrop [("region", "south")] 4 1]
      ([1, 2, 3, 4].map fun hour => Sample.regionOrders "south" hour 100)).isOk = true := by
    decide +kernel
  cases h : buildDetection Sample.config [Sample.ordersDrop [("region", "south")] 4 1]
      ([1, 2, 3, 4].map fun hour => Sample.regionOrders "south" hour 100) with
  | error e =>
    rw [h] at hok
    contradiction
  | ok t =>
    have hids : ([Sample.ordersDrop [("region", "south")] 4 1].map (·.scenarioId)).Nodup :=
      List.nodup_singleton _
    obtain ⟨summary, hsummary, haccounts⟩ :=
      benchmark_accounts exactMath_unitQuotients (List.cons_ne_nil _ _) hids h
    exact ⟨t, summary, rfl, hsummary, haccounts⟩

end Paic.Detection
