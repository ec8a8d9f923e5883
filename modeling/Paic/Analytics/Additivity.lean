import Paic.Analytics.Decomposition
import Paic.Analytics.Metrics
import Paic.Lib.GroupBy

/-!
# The numerators and denominators of metrics are additive

Counts, sums and ratios measure a group by sums over its rows. The groups of a
cohort that are in a period are the rows of the period, for whatever cohort,
and those of the hours of a day are the rows of the day.
-/

namespace Paic.Analytics

open Checks (bind_eq_ok need_ok pure_eq_ok mapM_ok)
open Detection (TimeGrain Instant Calculation periodDelta)
open GroupBy (sum_part map_filter_forall₂ filter_flatten_mapM)
open Partition (distinct part mem_part)

-- ---------------------------------------------------------------------------
-- What a row adds
-- ---------------------------------------------------------------------------

/-- The calculations whose numerators are sums over the rows. -/
inductive Additive : Calculation → Prop where
  | count : Additive .count
  | sum : Additive .sum
  | ratio : Additive .ratio
  | ratioOfSums : Additive .ratioOfSums

/-- The calculations that have a denominator which is a sum over the rows. -/
def hasDenominator : Calculation → Bool
  | .ratio | .ratioOfSums => true
  | _ => false

/-- A number, or nothing where the cell is null. -/
def numberOr (row : FactRow) (column : Option String) : Rat := (column.bind row.number).getD 0

def castOr (row : FactRow) (column : Option String) : Rat :=
  ((column.bind row.number).map fun number => (castInt64 number : Rat)).getD 0

/-- What a row adds to the numerator. -/
def numeratorWeight (definition : MetricDefinition) (row : FactRow) : Rat :=
  match definition.calculation with
  | .count => 1
  | .sum => numberOr row definition.valueColumn
  | .ratio => castOr row definition.numeratorColumn
  | .ratioOfSums => numberOr row definition.numeratorColumn
  | _ => 0

/-- What a row adds to the denominator. -/
def denominatorWeight (definition : MetricDefinition) (row : FactRow) : Rat :=
  match definition.calculation with
  | .ratio => if definition.denominatorColumn.isSome then castOr row definition.denominatorColumn else 1
  | .ratioOfSums => numberOr row definition.denominatorColumn
  | _ => 0

theorem sum_numbersOf (rows : List FactRow) (column : String) (f : Rat → Rat) :
    ((numbersOf rows column).map f).sum =
      (rows.map fun row => ((row.number column).map f).getD 0).sum := by
  induction rows with
  | nil => rfl
  | cons row rows ih =>
    rw [numbersOf] at ih ⊢
    rw [List.filterMap_cons, List.map_cons, List.sum_cons, ← ih]
    cases row.number column with
    | none => exact (zero_add _).symm
    | some number => rfl

theorem sum_numbersOf_id (rows : List FactRow) (column : String) :
    (numbersOf rows column).sum = (rows.map fun row => numberOr row (some column)).sum := by
  have hsum := sum_numbersOf rows column id
  rw [List.map_id] at hsum
  rw [hsum]
  exact congrArg List.sum (List.map_congr_left fun row _ => by rw [Option.map_id]; rfl)

/-- The sum over rows of which each counts one. -/
theorem sum_ones (rows : List FactRow) : (rows.map fun _ => (1 : Rat)).sum = rows.length := by
  rw [List.map_const', List.sum_replicate, nsmul_one]

/-- The measurement of a group is the sums over its rows. -/
theorem measured_eq (hadditive : Additive definition.calculation)
    (h : aggregate definition rows = .ok aggregates) :
    (measurement definition.calculation aggregates).numerator =
        some (rows.map (numeratorWeight definition)).sum ∧
      (measurement definition.calculation aggregates).denominator =
        if hasDenominator definition.calculation then
          some (rows.map (denominatorWeight definition)).sum
        else none := by
  have hnumerator : numeratorWeight definition = fun row => _ := funext fun row => by
    rw [numeratorWeight]
  have hdenominator : denominatorWeight definition = fun row => _ := funext fun row => by
    rw [denominatorWeight]
  rw [hnumerator, hdenominator]
  rw [aggregate] at h
  cases hcalculation : definition.calculation with
  | count =>
    rw [hcalculation] at h
    obtain rfl := Except.ok.inj h
    exact ⟨congrArg some (sum_ones rows).symm, rfl⟩
  | sum =>
    rw [hcalculation] at h
    obtain ⟨column, hcolumn, h⟩ := bind_eq_ok.mp h
    obtain rfl := pure_eq_ok.mp h
    rw [need_ok] at hcolumn
    rw [hcolumn]
    exact ⟨congrArg some (sum_numbersOf_id rows column), rfl⟩
  | ratio =>
    rw [hcalculation] at h
    obtain ⟨column, hcolumn, h⟩ := bind_eq_ok.mp h
    obtain rfl := pure_eq_ok.mp h
    rw [need_ok] at hcolumn
    rw [hcolumn]
    refine ⟨congrArg some (sum_numbersOf rows column _), congrArg some ?_⟩
    cases definition.denominatorColumn with
    | none => exact (sum_ones rows).symm
    | some column => exact sum_numbersOf rows column _
  | ratioOfSums =>
    rw [hcalculation] at h
    cases hn : definition.numeratorColumn with
    | none => rw [hn] at h; exact absurd h nofun
    | some numeratorColumn =>
      cases hd : definition.denominatorColumn with
      | none => rw [hn, hd] at h; exact absurd h nofun
      | some denominatorColumn =>
        rw [hn, hd] at h
        obtain rfl := Except.ok.inj h
        exact ⟨congrArg some (sum_numbersOf_id rows numeratorColumn),
          congrArg some (sum_numbersOf_id rows denominatorColumn)⟩
  | _ => rw [hcalculation] at hadditive; nomatch hadditive

-- ---------------------------------------------------------------------------
-- The observation of a group
-- ---------------------------------------------------------------------------

theorem lookup_zip_map {f : Dimension → Option String} {names : List Dimension} (name : Dimension) :
    (names.zip (names.map f)).lookup name = if name ∈ names then some (f name) else none := by
  induction names with
  | nil => rfl
  | cons other names ih =>
    rw [List.map_cons, List.zip_cons_cons, List.lookup_cons, ih]
    by_cases h : name = other
    · rw [h, beq_self_eq_true, if_pos List.mem_cons_self]
    · have hne : (name == other) = false := beq_false_of_ne h
      rw [hne]
      simp only [List.mem_cons, h, false_or]

/-- The dimensions of a cohort are those of the group, the others null. -/
theorem dimensionOf_map (cohort : CohortSpec) (f : Dimension → Option String) (name : Dimension) :
    dimensionOf cohort (cohort.dimensions.map f) name =
      if name ∈ cohort.dimensions then f name else none := by
  rw [dimensionOf, lookup_zip_map]
  split <;> rfl

/-- The period of an observation and its values of the dimensions of a
cohort. -/
def keyOf (cohort : CohortSpec) (row : Observation) : GroupKey :=
  (row.periodStart, cohort.dimensions.map row.dimensions)

/-- What the observation of a group says of the rows of the fact table in
it. -/
structure IsCell (definition : MetricDefinition) (grain : TimeGrain) (cohort : CohortSpec)
    (fact : List FactRow) (key : GroupKey) (row : Observation) : Prop where
  metricName : row.metricName = definition.name
  timeGrain : row.timeGrain = grain
  cohortName : row.cohortName = cohort.name
  group : keyOf cohort row = key
  others : ∀ name, name ∉ cohort.dimensions → row.dimensions name = none
  numerator : Additive definition.calculation → row.numerator =
    some (((part (groupKey definition grain cohort) fact key).map (numeratorWeight definition)).sum)
  denominator : Additive definition.calculation → row.denominator =
    if hasDenominator definition.calculation then
      some (((part (groupKey definition grain cohort) fact key).map
        (denominatorWeight definition)).sum)
    else none
  ratio : hasDenominator definition.calculation = true → ∃ numerator denominator,
    row.numerator = some numerator ∧ row.denominator = some denominator ∧
      row.value = definedRatio numerator denominator

/-- A measurement with a denominator is a ratio where that is positive. -/
theorem measured_ratio (hratio : hasDenominator definition.calculation = true)
    (h : aggregate definition rows = .ok aggregates) :
    ∃ numerator denominator,
      (measurement definition.calculation aggregates).numerator = some numerator ∧
      (measurement definition.calculation aggregates).denominator = some denominator ∧
      (measurement definition.calculation aggregates).value =
        definedRatio numerator denominator := by
  rw [aggregate] at h
  cases hcalculation : definition.calculation with
  | ratio =>
    rw [hcalculation] at h
    obtain ⟨column, -, h⟩ := bind_eq_ok.mp h
    obtain rfl := pure_eq_ok.mp h
    exact ⟨_, _, rfl, rfl, rfl⟩
  | ratioOfSums =>
    rw [hcalculation] at h
    dsimp only at h
    split at h
    · obtain rfl := Except.ok.inj h
      exact ⟨_, _, rfl, rfl, rfl⟩
    · exact absurd h nofun
  | _ => rw [hcalculation] at hratio; exact absurd hratio nofun

theorem observe_isCell {config : AnalyticsConfig} {fact : List FactRow}
    (hkey : groupKey definition grain cohort factRow = key)
    (h : observe config definition grain cohort fact key = .ok row) :
    IsCell definition grain cohort fact key row := by
  obtain ⟨aggregates, haggregate, h⟩ := bind_eq_ok.mp h
  obtain rfl := pure_eq_ok.mp h
  subst hkey
  constructor
  case metricName => rfl
  case timeGrain => rfl
  case cohortName => rfl
  case group =>
    refine Prod.ext rfl (List.map_congr_left fun name hname => ?_)
    exact (dimensionOf_map cohort factRow.dimension name).trans (if_pos hname)
  case others =>
    exact fun name hname => (dimensionOf_map cohort factRow.dimension name).trans (if_neg hname)
  case numerator => exact fun hadditive => (measured_eq hadditive haggregate).1
  case denominator => exact fun hadditive => (measured_eq hadditive haggregate).2
  case ratio => exact fun hratio => measured_ratio hratio haggregate

theorem observeCohort_cells {config : AnalyticsConfig} {fact : List FactRow}
    (h : observeCohort config definition fact grain cohort = .ok rows) :
    List.Forall₂ (IsCell definition grain cohort fact)
      (distinct (fact.map (groupKey definition grain cohort))) rows := by
  have hrows := mapM_ok.mp h
  refine ((List.forall₂_and_left _ _).mpr ⟨fun key hkey => hkey, hrows⟩).imp fun key row hobserved => ?_
  obtain ⟨factRow, -, hkey⟩ := List.mem_map.mp (Partition.mem_distinct.mp hobserved.1)
  exact observe_isCell hkey hobserved.2

theorem observeCohort_mem {config : AnalyticsConfig} {fact : List FactRow}
    (h : observeCohort config definition fact grain cohort = .ok rows) (hrow : row ∈ rows) :
    ∃ key, IsCell definition grain cohort fact key row := by
  obtain ⟨key, hkey, hobserved⟩ := (Checks.mapM_mem h).mp hrow
  obtain ⟨factRow, -, hgroup⟩ := List.mem_map.mp (Partition.mem_distinct.mp hkey)
  exact ⟨key, observe_isCell hgroup hobserved⟩

-- ---------------------------------------------------------------------------
-- The rows of a metric, a grain and a cohort
-- ---------------------------------------------------------------------------

def cellsOf (observations : List Observation) (metricName : String) (grain : TimeGrain)
    (cohort : CohortSpec) : List Observation :=
  ((observations.filter fun row => row.metricName = metricName).filter fun row =>
    row.timeGrain = grain).filter fun row => row.cohortName = cohort.name

theorem observeGrain_mem {config : AnalyticsConfig} {fact : List FactRow}
    (h : observeGrain config definition fact grain = .ok rows) (hrow : row ∈ rows) :
    ∃ cohort ∈ supportedCohorts definition config.cohorts, ∃ key,
      IsCell definition grain cohort fact key row := by
  obtain ⟨blocks, hblocks, h⟩ := bind_eq_ok.mp h
  obtain rfl := pure_eq_ok.mp h
  obtain ⟨block, hblock, hrow⟩ := List.mem_flatten.mp hrow
  obtain ⟨cohort, hcohort, hobserved⟩ := (Checks.mapM_mem hblocks).mp hblock
  exact ⟨cohort, hcohort, observeCohort_mem hobserved hrow⟩

/-- What a metric is measured by. -/
structure Measures (registry : List MetricDefinition) (facts : FactMap) (metricName : String)
    (definition : MetricDefinition) (fact : List FactRow) : Prop where
  registered : registry.find? (fun item => item.name = metricName) = some definition
  table : facts.lookup definition.fact = some fact

theorem observeMetric_ok {config : AnalyticsConfig}
    (h : observeMetric registry facts config metricName = .ok rows) :
    ∃ definition fact, Measures registry facts metricName definition fact ∧
      (fact = [] ∧ rows = [] ∨ ∃ blocks,
        config.timeGrains.mapM (observeGrain config definition fact) = .ok blocks ∧
          rows = blocks.flatten) := by
  obtain ⟨definition, hdefinition, h⟩ := bind_eq_ok.mp h
  obtain ⟨fact, hfact, h⟩ := bind_eq_ok.mp h
  refine ⟨definition, fact, ⟨need_ok.mp hdefinition, need_ok.mp hfact⟩, ?_⟩
  split at h
  case isTrue hempty => exact .inl ⟨List.isEmpty_iff.mp hempty, (pure_eq_ok.mp h).symm⟩
  case isFalse =>
    obtain ⟨blocks, hblocks, h⟩ := bind_eq_ok.mp h
    exact .inr ⟨blocks, hblocks, (pure_eq_ok.mp h).symm⟩

theorem observeMetric_mem {config : AnalyticsConfig}
    (h : observeMetric registry facts config metricName = .ok rows) (hrow : row ∈ rows) :
    ∃ definition fact, Measures registry facts metricName definition fact ∧
      ∃ grain ∈ config.timeGrains, ∃ cohort ∈ supportedCohorts definition config.cohorts, ∃ key,
        IsCell definition grain cohort fact key row := by
  obtain ⟨definition, fact, hmeasures, ⟨-, rfl⟩ | ⟨blocks, hblocks, rfl⟩⟩ := observeMetric_ok h
  · exact absurd hrow List.not_mem_nil
  · obtain ⟨block, hblock, hrow⟩ := List.mem_flatten.mp hrow
    obtain ⟨grain, hgrain, hobserved⟩ := (Checks.mapM_mem hblocks).mp hblock
    exact ⟨definition, fact, hmeasures, grain, hgrain, observeGrain_mem hobserved hrow⟩

theorem Measures.name_eq (h : Measures registry facts metricName definition fact) :
    definition.name = metricName := by
  have hfound := List.find?_some h.registered
  exact of_decide_eq_true hfound

/-- The rows of a metric, a grain and a cohort are the observations of its
groups. -/
theorem cellsOf_cells {registry : List MetricDefinition} {facts : FactMap}
    {config : AnalyticsConfig} {observations : List Observation}
    (h : calculateMetricObservations registry facts config = .ok observations)
    (hname : metricName ∈ config.metricNames) :
    ∃ definition fact, Measures registry facts metricName definition fact ∧
      ∀ grain ∈ config.timeGrains, ∀ cohort ∈ supportedCohorts definition config.cohorts,
        ∃ rows, (cellsOf observations metricName grain cohort).Perm rows ∧
          List.Forall₂ (IsCell definition grain cohort fact)
            (distinct (fact.map (groupKey definition grain cohort))) rows := by
  obtain ⟨outputs, houtputs, h⟩ := bind_eq_ok.mp h
  obtain rfl := pure_eq_ok.mp h
  obtain ⟨block, hblock, hmetric⟩ := filter_flatten_mapM Observation.metricName (fun name => name)
    houtputs
    (fun name _ block hblock row hrow => by
      obtain ⟨definition, fact, hmeasures, grain, -, cohort, -, key, hcell⟩ :=
        observeMetric_mem hblock hrow
      exact hcell.metricName.trans hmeasures.name_eq)
    (by rw [List.map_id']; exact config.metricNames_nodup) hname
  obtain ⟨definition, fact, hmeasures, hrows⟩ := observeMetric_ok hblock
  refine ⟨definition, fact, hmeasures, fun grain hgrain cohort hcohort => ?_⟩
  have hperm : ∀ rows, (block.filter fun row => row.timeGrain = grain).filter
      (fun row => row.cohortName = cohort.name) = rows →
      (cellsOf (Sorted.byKey sortKey outputs.flatten) metricName grain cohort).Perm rows := by
    intro rows hrows
    rw [← hrows, ← hmetric]
    exact (((Sorted.byKey_perm sortKey outputs.flatten).filter _).filter _).filter _
  rcases hrows with ⟨rfl, rfl⟩ | ⟨blocks, hblocks, rfl⟩
  · exact ⟨[], hperm [] rfl, .nil⟩
  obtain ⟨rows, hrows, hgrainRows⟩ := filter_flatten_mapM Observation.timeGrain (fun grain => grain)
    hblocks
    (fun grain _ block hblock row hrow => by
      obtain ⟨cohort, -, key, hcell⟩ := observeGrain_mem hblock hrow
      exact hcell.timeGrain)
    (by rw [List.map_id']; exact config.timeGrains_nodup) hgrain
  obtain ⟨blocks', hblocks', hrows⟩ := bind_eq_ok.mp hrows
  obtain rfl := pure_eq_ok.mp hrows
  have hnames : ((supportedCohorts definition config.cohorts).map CohortSpec.name).Nodup :=
    config.cohortNames_nodup.sublist (List.filter_sublist.map _)
  obtain ⟨cells, hcells, hcohortRows⟩ := filter_flatten_mapM Observation.cohortName CohortSpec.name
    hblocks'
    (fun cohort _ block hblock row hrow => by
      obtain ⟨key, hcell⟩ := observeCohort_mem hblock hrow
      exact hcell.cohortName)
    hnames hcohort
  refine ⟨cells, hperm cells ?_, observeCohort_cells hcells⟩
  rw [hgrainRows, hcohortRows]

-- ---------------------------------------------------------------------------
-- Totals
-- ---------------------------------------------------------------------------

def numeratorTotal (rows : List Observation) : Rat :=
  (rows.map fun row => row.numerator.getD 0).sum

def denominatorTotal (rows : List Observation) : Rat :=
  (rows.map fun row => row.denominator.getD 0).sum

section
variable {definition : MetricDefinition} {grain : TimeGrain} {cohort : CohortSpec}
variable {fact : List FactRow} {cells rows : List Observation}

/-- The cells with a key that is wanted total the fact rows that have one. -/
theorem total_of_cells {value : Observation → Rat} {weight : FactRow → Rat}
    (hperm : cells.Perm rows) (hcells : List.Forall₂ (IsCell definition grain cohort fact)
      (distinct (fact.map (groupKey definition grain cohort))) rows)
    (hvalue : ∀ key row, IsCell definition grain cohort fact key row →
      value row = ((part (groupKey definition grain cohort) fact key).map weight).sum)
    (wanted : GroupKey → Bool) :
    ((cells.filter fun row => wanted (keyOf cohort row)).map value).sum =
      ((fact.filter fun row => wanted (groupKey definition grain cohort row)).map weight).sum := by
  rw [((hperm.filter _).map value).sum_eq,
    map_filter_forall₂ hcells (fun _ _ h => h.group) hvalue wanted]
  exact sum_part (groupKey definition grain cohort) fact weight wanted

theorem IsCell.numerator_getD (hadditive : Additive definition.calculation)
    (h : IsCell definition grain cohort fact key row) : row.numerator.getD 0 =
      ((part (groupKey definition grain cohort) fact key).map (numeratorWeight definition)).sum := by
  rw [h.numerator hadditive, Option.getD_some]

theorem IsCell.denominator_getD (hadditive : Additive definition.calculation)
    (h : IsCell definition grain cohort fact key row) : row.denominator.getD 0 =
      ((part (groupKey definition grain cohort) fact key).map
        (denominatorWeight definition)).sum := by
  rw [h.denominator hadditive]
  cases hcalculation : definition.calculation with
  | ratio => rfl
  | ratioOfSums => rfl
  | _ =>
    have hzero : ∀ factRow, denominatorWeight definition factRow = 0 := fun factRow => by
      rw [denominatorWeight, hcalculation]
    symm
    refine List.sum_eq_zero fun weight hweight => ?_
    obtain ⟨factRow, -, rfl⟩ := List.mem_map.mp hweight
    exact hzero factRow

/-- A cell that holds the fact rows of some cells of another grain or cohort has
their totals. -/
theorem IsCell.total {grain' : TimeGrain} {cohort' : CohortSpec}
    (hadditive : Additive definition.calculation)
    (h : IsCell definition grain' cohort' fact key row) (hperm : cells.Perm rows)
    (hcells : List.Forall₂ (IsCell definition grain cohort fact)
      (distinct (fact.map (groupKey definition grain cohort))) rows)
    (wanted : GroupKey → Bool) (hwanted : ∀ factRow,
      wanted (groupKey definition grain cohort factRow) =
        decide (groupKey definition grain' cohort' factRow = key)) :
    row.numerator = some (numeratorTotal (cells.filter fun row => wanted (keyOf cohort row))) ∧
      row.denominator = if hasDenominator definition.calculation then
        some (denominatorTotal (cells.filter fun row => wanted (keyOf cohort row))) else none := by
  have hfilter : (fact.filter fun factRow => wanted (groupKey definition grain cohort factRow)) =
      part (groupKey definition grain' cohort') fact key :=
    List.filter_congr fun factRow _ => hwanted factRow
  have hnumerator := total_of_cells hperm hcells (fun _ _ => IsCell.numerator_getD hadditive) wanted
  have hdenominator :=
    total_of_cells hperm hcells (fun _ _ => IsCell.denominator_getD hadditive) wanted
  rw [hfilter] at hnumerator hdenominator
  rw [h.numerator hadditive, h.denominator hadditive, numeratorTotal, denominatorTotal, hnumerator,
    hdenominator]
  exact ⟨rfl, rfl⟩

end

-- ---------------------------------------------------------------------------
-- The laws of a metric
-- ---------------------------------------------------------------------------

/-- The day of an hour. -/
def dayOf (period : Option Instant) : Option Instant := period.map (truncate .day)

theorem dayOf_hour (timestampColumn : String) (row : FactRow) :
    dayOf (periodOf timestampColumn .hour row) = periodOf timestampColumn .day row := by
  rw [dayOf, periodOf, periodOf, Option.map_map]
  refine congrArg (fun f => (row.timestamp timestampColumn).map f) (funext fun instant => ?_)
  have hday : ∀ t : Int, t - t % 3600000000 - (t - t % 3600000000) % 86400000000 =
      t - t % 86400000000 := by
    intro t
    omega
  exact hday instant

/-- The rows of a cohort in a period. -/
def inPeriod (cells : List Observation) (period : Option Instant) : List Observation :=
  cells.filter fun row => row.periodStart = period

/-- The rows of the hours of a day with the dimensions of a cohort. -/
def inDay (cohort : CohortSpec) (cells : List Observation) (day : Observation) :
    List Observation :=
  cells.filter fun row => (dayOf row.periodStart, cohort.dimensions.map row.dimensions) =
    keyOf cohort day

/-- What holds of the observations of a metric. -/
structure MetricLaws (config : AnalyticsConfig) (observations : List Observation)
    (definition : MetricDefinition) (fact : List FactRow) : Prop where
  /-- Each group that has a row is there, once, and no other. -/
  groups : ∀ grain ∈ config.timeGrains, ∀ cohort ∈ supportedCohorts definition config.cohorts,
    ((cellsOf observations definition.name grain cohort).map (keyOf cohort)).Nodup ∧
    (∀ key, key ∈ (cellsOf observations definition.name grain cohort).map (keyOf cohort) ↔
      ∃ row ∈ fact, groupKey definition grain cohort row = key) ∧
    ∀ row ∈ cellsOf observations definition.name grain cohort, ∀ name, name ∉ cohort.dimensions →
      row.dimensions name = none
  /-- A ratio is undefined unless its denominator is positive. -/
  ratios : hasDenominator definition.calculation = true → ∀ grain ∈ config.timeGrains,
    ∀ cohort ∈ supportedCohorts definition config.cohorts,
    ∀ row ∈ cellsOf observations definition.name grain cohort, ∃ numerator denominator,
      row.numerator = some numerator ∧ row.denominator = some denominator ∧
        row.value = if 0 < denominator then some (numerator / denominator) else none
  /-- Whatever the cohort, a period has the numerator and denominator that it
  has without dimensions. -/
  cohorts : Additive definition.calculation → ∀ grain ∈ config.timeGrains,
    ∀ cohort ∈ supportedCohorts definition config.cohorts,
    ∀ overall ∈ config.cohorts, overall.dimensions = [] →
    ∀ row ∈ cellsOf observations definition.name grain overall,
      row.numerator = some (numeratorTotal
        (inPeriod (cellsOf observations definition.name grain cohort) row.periodStart)) ∧
      row.denominator = if hasDenominator definition.calculation then some (denominatorTotal
        (inPeriod (cellsOf observations definition.name grain cohort) row.periodStart)) else none
  /-- The hours of a day have its numerator and denominator. -/
  days : Additive definition.calculation → .hour ∈ config.timeGrains → .day ∈ config.timeGrains →
    ∀ cohort ∈ supportedCohorts definition config.cohorts,
    ∀ row ∈ cellsOf observations definition.name .day cohort,
      row.numerator = some (numeratorTotal
        (inDay cohort (cellsOf observations definition.name .hour cohort) row)) ∧
      row.denominator = if hasDenominator definition.calculation then some (denominatorTotal
        (inDay cohort (cellsOf observations definition.name .hour cohort) row)) else none

theorem mem_cells {rows cells : List Observation} (hperm : cells.Perm rows)
    (hcells : List.Forall₂ (IsCell definition grain cohort fact) keys rows) (hrow : row ∈ cells) :
    ∃ key ∈ keys, IsCell definition grain cohort fact key row := by
  have hmem := hperm.mem_iff.mp hrow
  clear hperm hrow
  induction hcells with
  | nil => exact absurd hmem List.not_mem_nil
  | @cons key first keys rows hcell _ ih =>
    rcases List.mem_cons.mp hmem with rfl | hmem
    · exact ⟨key, List.mem_cons_self, hcell⟩
    · obtain ⟨key', hkey', hcell'⟩ := ih hmem
      exact ⟨key', List.mem_cons_of_mem _ hkey', hcell'⟩

theorem map_keyOf {rows : List Observation}
    (hcells : List.Forall₂ (IsCell definition grain cohort fact) keys rows) :
    rows.map (keyOf cohort) = keys := by
  induction hcells with
  | nil => rfl
  | cons hcell _ ih => rw [List.map_cons, hcell.group, ih]

/-- Where a metric is calculated, its numerators and denominators are
additive. -/
theorem metrics_additive {registry : List MetricDefinition} {facts : FactMap}
    {config : AnalyticsConfig} {observations : List Observation}
    (h : calculateMetricObservations registry facts config = .ok observations) :
    (∀ metricName ∈ config.metricNames, ∃ definition fact,
      Measures registry facts metricName definition fact ∧ definition.name = metricName ∧
        MetricLaws config observations definition fact) ∧
    ∀ row ∈ observations, ∃ metricName ∈ config.metricNames, ∃ definition fact,
      Measures registry facts metricName definition fact ∧ ∃ grain ∈ config.timeGrains,
        ∃ cohort ∈ supportedCohorts definition config.cohorts,
          row ∈ cellsOf observations metricName grain cohort := by
  constructor
  · intro metricName hname
    obtain ⟨definition, fact, hmeasures, hcells⟩ := cellsOf_cells h hname
    obtain rfl := hmeasures.name_eq
    refine ⟨definition, fact, hmeasures, rfl, ?_⟩
    constructor
    case groups =>
      intro grain hgrain cohort hcohort
      obtain ⟨rows, hperm, hrows⟩ := hcells grain hgrain cohort hcohort
      have hkeys := (hperm.map (keyOf cohort)).trans (.of_eq (map_keyOf hrows))
      refine ⟨hkeys.nodup_iff.mpr (Partition.distinct_nodup _), fun key => ?_, ?_⟩
      · rw [hkeys.mem_iff, Partition.mem_distinct, List.mem_map]
      · intro row hrow
        obtain ⟨key, -, hcell⟩ := mem_cells hperm hrows hrow
        exact hcell.others
    case ratios =>
      intro hratio grain hgrain cohort hcohort row hrow
      obtain ⟨rows, hperm, hrows⟩ := hcells grain hgrain cohort hcohort
      obtain ⟨key, -, hcell⟩ := mem_cells hperm hrows hrow
      exact hcell.ratio hratio
    case cohorts =>
      intro hadditive grain hgrain cohort hcohort overall hoverall hnone row hrow
      have hsupported : overall ∈ supportedCohorts definition config.cohorts :=
        List.mem_filter.mpr ⟨hoverall, by rw [hnone]; rfl⟩
      obtain ⟨rows, hperm, hrows⟩ := hcells grain hgrain overall hsupported
      obtain ⟨key, -, hcell⟩ := mem_cells hperm hrows hrow
      obtain ⟨rows', hperm', hrows'⟩ := hcells grain hgrain cohort hcohort
      refine hcell.total hadditive hperm' hrows' (fun key => key.1 = row.periodStart) ?_
      intro factRow
      rw [← hcell.group, groupKey, groupKey, keyOf, hnone, List.map_nil, List.map_nil]
      refine decide_eq_decide.mpr ?_
      rw [Prod.mk.injEq, and_iff_left rfl]
    case days =>
      intro hadditive hhour hday cohort hcohort row hrow
      obtain ⟨rows, hperm, hrows⟩ := hcells .day hday cohort hcohort
      obtain ⟨key, -, hcell⟩ := mem_cells hperm hrows hrow
      obtain ⟨rows', hperm', hrows'⟩ := hcells .hour hhour cohort hcohort
      refine hcell.total hadditive hperm' hrows'
        (fun key => (dayOf key.1, key.2) = keyOf cohort row) ?_
      intro factRow
      rw [← hcell.group, groupKey, groupKey, dayOf_hour]
  · intro row hrow
    obtain ⟨outputs, houtputs, h⟩ := bind_eq_ok.mp h
    obtain rfl := pure_eq_ok.mp h
    obtain ⟨block, hblock, hmem⟩ := List.mem_flatten.mp (Sorted.mem_byKey.mp hrow)
    obtain ⟨metricName, hname, hmetric⟩ := (Checks.mapM_mem houtputs).mp hblock
    obtain ⟨definition, fact, hmeasures, grain, hgrain, cohort, hcohort, key, hcell⟩ :=
      observeMetric_mem hmetric hmem
    refine ⟨metricName, hname, definition, fact, hmeasures, grain, hgrain, cohort, hcohort, ?_⟩
    simp only [cellsOf, List.mem_filter, decide_eq_true_eq]
    exact ⟨⟨⟨hrow, hcell.metricName.trans hmeasures.name_eq⟩, hcell.timeGrain⟩, hcell.cohortName⟩

namespace Sample

def conversionRate : MetricDefinition :=
  { name := "checkout_conversion_rate"
    displayName := "Checkout conversion rate"
    domain := "checkout"
    fact := "checkout"
    timestampColumn := "started_at"
    calculation := .ratio
    metricType := .ratio
    unit := "proportion"
    higherIsBetter := some true
    supportedDimensions := [.region]
    valueColumn := none
    numeratorColumn := some "has_order"
    denominatorColumn := none
    quantile := none }

def session (startedAt : Detection.Instant) (region : Option String) (hasOrder : Rat) : FactRow where
  timestamp _ := some startedAt
  dimension name := if name = .region then region else none
  number _ := some hasOrder
  text _ := none

/-- Three sessions in two hours of a day, one without a region. -/
def facts : FactMap :=
  [("checkout", [session 0 (some "north") 1, session 60000000 none 0,
    session 3600000000 (some "north") 1])]

def metricConfig : AnalyticsConfig :=
  { config with
    timeGrains := [.hour, .day]
    timeGrains_nodup := by decide }

def observations : List Observation :=
  match calculateMetricObservations [conversionRate] facts metricConfig with
  | .ok observations => observations
  | .error _ => []

theorem calculated :
    calculateMetricObservations [conversionRate] facts metricConfig = .ok observations := by
  rw [observations]
  cases h : calculateMetricObservations [conversionRate] facts metricConfig with
  | ok => rfl
  | error e =>
    have hok : (calculateMetricObservations [conversionRate] facts metricConfig).isOk = true := by
      decide +kernel
    rw [h] at hok
    exact absurd hok nofun

/-- The day has the sessions of its two hours and of both regions. -/
theorem metrics_additive_sample :
    metricConfig.cohorts.map (fun cohort =>
      (cellsOf observations "checkout_conversion_rate" .day cohort).length) = [1, 2] ∧
    ∀ cohort ∈ metricConfig.cohorts, ∀ row ∈
      cellsOf observations "checkout_conversion_rate" .day cohort,
        row.numerator = some (numeratorTotal (inDay cohort
          (cellsOf observations "checkout_conversion_rate" .hour cohort) row)) := by
  refine ⟨by decide +kernel, ?_⟩
  obtain ⟨hlaws, -⟩ := metrics_additive calculated
  obtain ⟨definition, fact, hmeasures, hname, hlaw⟩ :=
    hlaws "checkout_conversion_rate" (by decide)
  obtain rfl : conversionRate = definition := Option.some.inj hmeasures.registered
  have hsupported : ∀ cohort ∈ metricConfig.cohorts,
      cohort ∈ supportedCohorts conversionRate metricConfig.cohorts := by decide
  exact fun cohort hcohort row hrow =>
    (hlaw.days .ratio (by decide) (by decide) cohort (hsupported cohort hcohort) row hrow).1

end Sample

end Paic.Analytics
