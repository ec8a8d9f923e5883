import Paic.Detection.Engine

/-!
# Benchmark scenarios

`_apply_benchmark_scenarios` perturbs the rows of a copy of the selected
metrics and writes down the truth about them. A scenario matches rows by
metric, grain, cohort, window and the values of some dimensions.
-/

namespace Paic.Detection

open Checks (raiseIf need loop)
open DetectionMath (add mul div)
open Sorted (byKey)

inductive PerturbationKind where
  | levelShift | drift | spike
  deriving DecidableEq, Repr

/-- `ANALYTIC_DIMENSIONS` -/
def analyticDimensions : List String :=
  ["region", "device", "channel", "customer_type", "app_version", "issuer", "payment_method",
    "processor", "customer_segment", "loyalty_tier", "product_category", "seller_id",
    "warehouse_id", "pipeline_name", "service", "deployment_scope"]

structure BenchmarkScenario where
  scenarioId : String
  metric : String
  timeGrain : TimeGrain
  cohort : String
  dimensionValues : List (String × String)
  startAt : Instant
  durationPeriods : Nat
  kind : PerturbationKind
  magnitude : Rat
  expectedDirection : Direction
  deriving DecidableEq, Repr

structure BenchmarkScenario.Valid (s : BenchmarkScenario) : Prop where
  metric : ∃ d, metricDefinition s.metric = .ok d
  cohort : s.cohort ≠ ""
  dimensions : ∀ d ∈ s.dimensionValues, d.1 ∈ analyticDimensions ∧ d.2 ≠ ""
  keys : (s.dimensionValues.map Prod.fst).Nodup
  durationPeriods : 1 ≤ s.durationPeriods
  magnitude : s.magnitude ≠ 0
  direction : (s.expectedDirection = .increase ∧ 0 < s.magnitude) ∨
    (s.expectedDirection = .decrease ∧ s.magnitude < 0)
  spike : s.kind = .spike → s.durationPeriods ≤ 3

/-- The end of the window. -/
def BenchmarkScenario.endAt (s : BenchmarkScenario) : Instant :=
  s.startAt + s.durationPeriods * periodDelta s.timeGrain

/-- A row of the table `benchmark_ground_truth`. -/
structure GroundTruth where
  scenarioId : String
  metricName : String
  timeGrain : TimeGrain
  cohortName : String
  dimensions : List (Option String)
  startedAt : Instant
  endedAt : Instant
  kind : PerturbationKind
  magnitude : Rat
  expectedDirection : Direction
  injectedPoints : Nat
  deriving DecidableEq, Repr

-- ---------------------------------------------------------------------------
-- The rows of a scenario
-- ---------------------------------------------------------------------------

/-- `row.get(dimension)` -/
def MetricRow.dimension (row : MetricRow) (name : String) : Option String :=
  ((analyticDimensions.zip row.dimensions).lookup name).join

/-- `_scenario_mask` -/
def scenarioMask (row : MetricRow) (s : BenchmarkScenario) : Bool :=
  decide (row.metricName = s.metric ∧ row.timeGrain = s.timeGrain ∧ row.cohortName = s.cohort ∧
    s.startAt ≤ row.periodStart ∧ row.periodStart < s.endAt) &&
    s.dimensionValues.all fun (name, value) => row.dimension name = some value

/-- The indices of the rows a scenario matches. -/
def matching (rows : List MetricRow) (s : BenchmarkScenario) : List Nat :=
  (List.range rows.length).filter fun i => rows[i]?.any fun row => scenarioMask row s

section
variable [DetectionMath]

/-- `_perturb` -/
def perturb (value : Rat) (s : BenchmarkScenario) (sequence : Nat) : Rat :=
  let factor := if s.kind = .drift
    then add 1 (mul s.magnitude (div (sequence + 1 : Nat) s.durationPeriods))
    else add 1 s.magnitude
  mul value factor

/-- A value within what is expected of a metric. -/
def withinExpected (definition : MetricDefinition) (value : Rat) : Rat :=
  let value := match definition.expectedMin with
    | some low => max value low
    | none => value
  match definition.expectedMax with
  | some high => min value high
  | none => value

/-- `max(round(denominator), 0)` -/
def trialsOf (denominator : Rat) : Int := max (pyRound denominator) 0

/-- What is written to a row that is perturbed to a value. -/
def rewritten (definition : MetricDefinition) (row : MetricRow) (perturbed : Rat) : MetricRow :=
  match decide (definition.metricType = .ratio), row.denominator with
  | true, some denominator =>
    let trials := trialsOf denominator
    let successes := min (max (pyRound (mul perturbed trials)) 0) trials
    { row with
      numerator := some successes
      value := if trials = 0 then none else some (div successes trials) }
  | _, _ =>
    if definition.calculation = .count ∨ definition.calculation = .distinctCount then
      let count := max (pyRound perturbed) 0
      { row with value := some count, numerator := some count, sampleSize := some count }
    else if definition.calculation = .sum then
      { row with value := some (max perturbed 0), numerator := some (max perturbed 0) }
    else match decide (definition.calculation = .mean ∨ definition.calculation = .ratioOfSums),
        row.denominator with
      | true, some denominator =>
        { row with value := some perturbed, numerator := some (mul perturbed denominator) }
      | _, _ => { row with value := some perturbed }

/-- The body of the loop over the indices of a scenario. -/
def perturbedRow (s : BenchmarkScenario) (definition : MetricDefinition) (sequence : Nat)
    (row : MetricRow) : Except Error MetricRow := do
  let value ← need row.value
    (.buildError s!"benchmark scenario {s.scenarioId} targets an undefined observation")
  let perturbed := withinExpected definition (perturb value s sequence)
  pure { rewritten definition row perturbed with scenarioId := some s.scenarioId }

/-- `rows[index]` is replaced. -/
def perturbAt (s : BenchmarkScenario) (definition : MetricDefinition) (rows : List MetricRow)
    (entry : Nat × Nat) : Except Error (List MetricRow) := do
  let row ← need rows[entry.1]? (.valueError "list index out of range")
  let row ← perturbedRow s definition entry.2 row
  pure (rows.set entry.1 row)

-- ---------------------------------------------------------------------------
-- All scenarios
-- ---------------------------------------------------------------------------

structure Injection where
  rows : List MetricRow
  occupied : List Nat
  truth : List GroundTruth

def truthRow (s : BenchmarkScenario) (points : Nat) : GroundTruth :=
  { scenarioId := s.scenarioId
    metricName := s.metric
    timeGrain := s.timeGrain
    cohortName := s.cohort
    dimensions := analyticDimensions.map fun name => s.dimensionValues.lookup name
    startedAt := s.startAt
    endedAt := s.endAt
    kind := s.kind
    magnitude := s.magnitude
    expectedDirection := s.expectedDirection
    injectedPoints := points }

/-- The body of the loop over the scenarios. -/
def applyScenario (state : Injection) (s : BenchmarkScenario) : Except Error Injection := do
  let indices := matching state.rows s
  let matched := indices.length
  raiseIf (matched ≠ s.durationPeriods) <| .buildError <|
    s!"benchmark scenario {s.scenarioId} expected {s.durationPeriods} " ++
      s!"periods but matched {matched}"
  raiseIf (∃ i ∈ indices, i ∈ state.occupied)
    (.buildError s!"benchmark scenario {s.scenarioId} overlaps another scenario")
  let definition ← metricDefinition s.metric
  let rows ← loop (perturbAt s definition) state.rows indices.zipIdx
  pure
    { rows
      occupied := state.occupied ++ indices
      truth := state.truth ++ [truthRow s indices.length] }

/-- The order of the selected metrics: metric, grain, cohort, dimensions, each
missing one last, and period. -/
def MetricRow.key (row : MetricRow) :
    String ×ₗ (String ×ₗ (String ×ₗ (List (WithTop String) ×ₗ Instant))) :=
  toLex (row.metricName, toLex (row.timeGrain.text, toLex (row.cohortName,
    toLex (row.dimensions.map fun d => d.elim ⊤ fun value => (value : WithTop String),
      row.periodStart))))

/-- A row of no scenario. -/
def MetricRow.plain (row : MetricRow) : MetricRow := { row with scenarioId := none }

/-- `_apply_benchmark_scenarios` -/
def applyBenchmarkScenarios (metrics : List MetricRow) (scenarios : List BenchmarkScenario) :
    Except Error (List MetricRow × List GroundTruth) := do
  let rows := metrics.map MetricRow.plain
  if scenarios = [] then pure (rows, [])
  else
    let state ← loop applyScenario ⟨rows, [], []⟩ scenarios
    pure (byKey MetricRow.key state.rows, byKey GroundTruth.scenarioId state.truth)

end

end Paic.Detection
