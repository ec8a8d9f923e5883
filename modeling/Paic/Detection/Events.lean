import Paic.Detection.Engine
import Paic.Lib.Runs
import Mathlib

/-!
# Events and change points

`_build_events` cuts the anomalies of each series into maximal runs and writes
one event for each run. A change point is a row of its own.
-/

namespace Paic.Detection

open Checks (raiseIf need)
open Partition (distinct parts part)
open Sorted (byKey)

/-- A row of the table `anomaly_events`. -/
structure AnomalyEvent where
  eventId : String
  seriesId : String
  metricName : String
  timeGrain : TimeGrain
  cohortName : String
  dimensions : List (Option String)
  startedAt : Instant
  endedAt : Instant
  firstDetectedAt : Instant
  peakAt : Instant
  observationCount : Nat
  maxEvidenceScore : Rat
  minimumQValue : Rat
  maxAbsoluteZ : Rat
  maxAbsoluteRelativeChange : Rat
  direction : Direction
  impactDirection : ImpactDirection
  severity : Severity
  scenarioIds : List String
  deriving DecidableEq, Repr

/-- A row of the table `change_point_events`. -/
structure ChangePoint where
  changeEventId : String
  seriesId : String
  metricName : String
  timeGrain : TimeGrain
  cohortName : String
  dimensions : List (Option String)
  detectedAt : Instant
  estimatedStartAt : Option Instant
  direction : Direction
  cusumScore : Rat
  robustZ : Option Rat
  scenarioId : Option String
  deriving DecidableEq, Repr

/-- `_SEVERITY_RANK` -/
def Severity.rank : Severity → Nat
  | .none => 0
  | .low => 1
  | .medium => 2
  | .high => 3
  | .critical => 4

/-- `max(l, key=key)`: the first of the largest elements. -/
def pyMax [LinearOrder κ] (key : α → κ) (l : List α) : Except Error α :=
  need (l.argmax key) (.valueError "max() iterable argument is empty")

def pyMin [LinearOrder κ] (key : α → κ) (l : List α) : Except Error α :=
  need (l.argmin key) (.valueError "min() iterable argument is empty")

/-- `float(value)` of a value that may be missing. -/
def toFloat (value : Option Rat) : Except Error Rat :=
  need value (.typeError "float() argument must be a string or a real number, not 'NoneType'")

/-- `anomalies` -/
def anomaliesOf (rows : List Observation) : List Observation :=
  byKey (fun o => toLex (o.seriesId, o.periodStart)) (rows.filter (·.isAnomaly))

/-- The row starts no later than the one before it ends. -/
def adjoins : Observation → Observation → Bool := Runs.touches (·.periodStart) (·.periodEnd)

/-- The groups of one partition. -/
def groupsOf (partition : List Observation) : List (List Observation) :=
  Runs.runs adjoins partition

/-- All groups, in the order their events are appended. -/
def allGroups (rows : List Observation) : List (List Observation) :=
  (parts (·.seriesId) (anomaliesOf rows)).flatMap groupsOf

/-- `sorted({str(item["scenario_id"]) for item in group if item["scenario_id"]})` -/
def scenariosOf (group : List Observation) : List String :=
  byKey (fun s => s) ((group.filterMap fun o => o.scenarioId.filter (· ≠ "")).dedup)

section
variable [Hashing] [PeriodText]

/-- The row that is written for a group. -/
def eventOf : List Observation → Except Error AnomalyEvent
  | [] => .error (.valueError "max() iterable argument is empty")
  | first :: rest => do
    let group := first :: rest
    let peak ← pyMax (·.evidenceScore) group
    let maxEvidenceScore ← pyMax (fun score => score) (group.map (·.evidenceScore))
    let minimumQValue ← pyMin (fun q => q) (group.filterMap (·.qValue))
    let robustZs ← group.mapM fun o => toFloat o.robustZ
    let maxAbsoluteZ ← pyMax (fun z => z) (robustZs.map fun z => |z|)
    let maxAbsoluteRelativeChange ←
      pyMax (fun change => change) ((group.filterMap (·.relativeChange)).map fun change => |change|)
    let severity ← pyMax Severity.rank (group.map (·.severity))
    pure
      { eventId := stableHashId "EVT" (.obj [("series", .str first.seriesId),
          ("start", .str (PeriodText.str first.periodStart))])
        seriesId := first.seriesId
        metricName := first.metricName
        timeGrain := first.timeGrain
        cohortName := first.cohortName
        dimensions := first.dimensions
        startedAt := first.periodStart
        endedAt := (group.getLast (List.cons_ne_nil first rest)).periodEnd
        firstDetectedAt := first.periodEnd
        peakAt := peak.periodStart
        observationCount := group.length
        maxEvidenceScore
        minimumQValue
        maxAbsoluteZ
        maxAbsoluteRelativeChange
        direction := peak.direction
        impactDirection := peak.impactDirection
        severity
        scenarioIds := scenariosOf group }

/-- The row that is written for a detected change. -/
def changeOf (o : Observation) : ChangePoint :=
  { changeEventId := stableHashId "CHG" (.obj [("series", .str o.seriesId),
      ("detected", .str (PeriodText.str o.periodEnd))])
    seriesId := o.seriesId
    metricName := o.metricName
    timeGrain := o.timeGrain
    cohortName := o.cohortName
    dimensions := o.dimensions
    detectedAt := o.periodEnd
    estimatedStartAt := o.estimatedChangeStart
    direction := o.direction
    cusumScore := o.cusumScore
    robustZ := o.robustZ
    scenarioId := o.scenarioId }

/-- `_build_events` -/
def buildEvents (rows : List Observation) :
    Except Error (List AnomalyEvent × List ChangePoint) := do
  let eventRows ← (allGroups rows).mapM eventOf
  let changes := (rows.filter (·.changeDetected)).map changeOf
  pure (byKey (·.startedAt) eventRows, byKey (·.detectedAt) changes)

end

-- ---------------------------------------------------------------------------
-- The event of a group
-- ---------------------------------------------------------------------------

section
variable [LinearOrder κ] {key : α → κ} {l : List α}

theorem pyMax_ok : pyMax key l = .ok m ↔ m ∈ l.argmax key := by
  rw [pyMax, Checks.need_ok, Option.mem_def]

theorem pyMin_ok : pyMin key l = .ok m ↔ m ∈ l.argmin key := by
  rw [pyMin, Checks.need_ok, Option.mem_def]

/-- Only a maximum of nothing fails. -/
theorem pyMax_returns : (∃ m, pyMax key l = .ok m) ↔ l ≠ [] := by
  simp only [pyMax, Checks.need_ok, ← Option.isSome_iff_exists, Option.isSome_iff_ne_none]
  exact not_congr List.argmax_eq_none

theorem pyMin_returns : (∃ m, pyMin key l = .ok m) ↔ l ≠ [] := by
  simp only [pyMin, Checks.need_ok, ← Option.isSome_iff_exists, Option.isSome_iff_ne_none]
  exact not_congr List.argmin_eq_none

/-- The maximum over the values of a list. -/
theorem isGreatest_of_pyMax {f : β → κ} {l : List β}
    (h : pyMax (fun x => x) (l.map f) = .ok m) : IsGreatest {x | ∃ b ∈ l, f b = x} m := by
  rw [pyMax_ok] at h
  refine ⟨List.mem_map.mp (List.argmax_mem h), ?_⟩
  rintro _ ⟨b, hb, rfl⟩
  exact List.le_of_mem_argmax (List.mem_map_of_mem hb) h

end

section
variable [Hashing] [PeriodText] {group : List Observation} {e : AnomalyEvent}

/-- What the event of a group says about its members. -/
structure EventFacts (group : List Observation) (e : AnomalyEvent) : Prop where
  series : ∀ o ∈ group.head?, e.seriesId = o.seriesId
  started : ∀ o ∈ group.head?, e.startedAt = o.periodStart
  ended : ∀ o ∈ group.getLast?, e.endedAt = o.periodEnd
  detected : ∀ o ∈ group.head?, e.firstDetectedAt = o.periodEnd
  count : e.observationCount = group.length
  peak : ∃ o ∈ group, o.periodStart = e.peakAt ∧ o.evidenceScore = e.maxEvidenceScore
  score : IsGreatest {score | ∃ o ∈ group, o.evidenceScore = score} e.maxEvidenceScore
  severity : IsGreatest {rank | ∃ o ∈ group, o.severity.rank = rank} e.severity.rank

theorem eventOf_facts (h : eventOf group = .ok e) : EventFacts group e := by
  cases group with
  | nil => contradiction
  | cons first rest =>
    simp only [eventOf, Checks.bind_eq_ok, Checks.pure_eq_ok] at h
    obtain ⟨peak, hpeak, score, hscore, -, -, -, -, -, -, -, -, severity, hseverity, rfl⟩ := h
    rw [pyMax_ok] at hpeak hseverity
    have hgreatest := isGreatest_of_pyMax hscore
    constructor
    case series => simp
    case started => simp
    case ended => simp [List.getLast?_eq_some_getLast]
    case detected => simp
    case count => rfl
    case peak =>
      have hmem := List.argmax_mem hpeak
      have hle : score ≤ peak.evidenceScore := by
        obtain ⟨o, ho, rfl⟩ := hgreatest.1
        exact List.le_of_mem_argmax ho hpeak
      exact ⟨peak, hmem, rfl, le_antisymm (hgreatest.2 ⟨peak, hmem, rfl⟩) hle⟩
    case score => exact hgreatest
    case severity =>
      obtain ⟨o, ho, heq⟩ := List.mem_map.mp (List.argmax_mem hseverity)
      refine ⟨⟨o, ho, congrArg Severity.rank heq⟩, ?_⟩
      rintro _ ⟨o, ho, rfl⟩
      exact List.le_of_mem_argmax (List.mem_map_of_mem ho) hseverity

/-- A group has an event when each of its members has a z-score and some of
them have a q-value and a relative change. -/
theorem eventOf_returns : (∃ e, eventOf group = .ok e) ↔
    (∃ o ∈ group, o.qValue.isSome) ∧ (∀ o ∈ group, o.robustZ.isSome) ∧
      ∃ o ∈ group, o.relativeChange.isSome := by
  have hsome : ∀ f : Observation → Option Rat,
      group.filterMap f ≠ [] ↔ ∃ o ∈ group, (f o).isSome := by
    intro f
    simp [Option.isSome_iff_ne_none]
  have hz : (∃ zs, group.mapM (fun o => toFloat o.robustZ) = .ok zs) ↔
      ∀ o ∈ group, o.robustZ.isSome := by
    simp only [Checks.mapM_returns, toFloat, Checks.need_ok, Option.isSome_iff_exists]
  cases group with
  | nil => simp [eventOf]
  | cons first rest =>
    rw [← hsome, ← hz, ← hsome]
    simp only [eventOf, Checks.bind_eq_ok, Checks.pure_eq_ok]
    constructor
    · rintro ⟨e, -, -, -, -, q, hq, zs, hzs, -, -, change, hchange, -⟩
      refine ⟨pyMin_returns.mp ⟨q, hq⟩, ⟨zs, hzs⟩, fun hnil => ?_⟩
      exact pyMax_returns.mp ⟨change, hchange⟩ (by rw [hnil]; rfl)
    · rintro ⟨hq, ⟨zs, hzs⟩, hchange⟩
      have hne : zs ≠ [] := by
        rintro rfl
        exact nomatch Checks.mapM_ok.mp hzs
      have hmax : ∀ {α κ : Type} [LinearOrder κ] (key : α → κ) (l : List α), l ≠ [] →
          ∃ m, pyMax key l = .ok m := fun _ _ => pyMax_returns.mpr
      obtain ⟨peak, hpeak⟩ := hmax (fun o => o.evidenceScore) (first :: rest) (by simp)
      obtain ⟨score, hscore⟩ := hmax (fun score => score)
        ((first :: rest).map fun o => o.evidenceScore) (by simp)
      have hmin : ∀ {l : List Rat}, l ≠ [] → ∃ m, pyMin (fun q => q) l = .ok m :=
        pyMin_returns.mpr
      obtain ⟨q, hq⟩ := hmin hq
      obtain ⟨z, hz⟩ := hmax (fun z => z) (zs.map fun z => |z|) (by simpa using hne)
      obtain ⟨change, hchange⟩ := hmax (fun change => change)
        (((first :: rest).filterMap fun o => o.relativeChange).map fun change => |change|)
        (by simpa using hchange)
      obtain ⟨severity, hseverity⟩ := hmax Severity.rank
        ((first :: rest).map fun o => o.severity) (by simp)
      exact ⟨_, peak, hpeak, score, hscore, q, hq, zs, hzs, z, hz, change, hchange, severity,
        hseverity, rfl⟩

/-- Events are returned when every group has its extremes. -/
theorem buildEvents_returns {rows : List Observation} : (∃ result, buildEvents rows = .ok result) ↔
    ∀ group ∈ allGroups rows, (∃ o ∈ group, o.qValue.isSome) ∧ (∀ o ∈ group, o.robustZ.isSome) ∧
      ∃ o ∈ group, o.relativeChange.isSome := by
  simp only [← eventOf_returns, ← Checks.mapM_returns, buildEvents, Checks.bind_eq_ok,
    Checks.pure_eq_ok]
  constructor
  · rintro ⟨-, eventRows, h, -⟩
    exact ⟨eventRows, h⟩
  · rintro ⟨eventRows, h⟩
    exact ⟨_, eventRows, h, rfl⟩

end

end Paic.Detection
