import Paic.Detection.Adjustment
import Paic.Detection.Scenarios
import Paic.Lib.Grid

/-!
# What the scenarios perturb

The loop over the scenarios rewrites the rows that a scenario matches, each
once, and leaves the others alone. Whether these are the consecutive periods
of one series is not checked: only their number is.
-/

namespace Paic.Detection

open Checks (raiseIf need loop bind_eq_ok pure_eq_ok)
open DetectionMath (add mul div)
open Sorted (byKey Strict)

/-- What a perturbation keeps of a row. -/
def MetricRow.frame (row : MetricRow) : MetricRow :=
  { row with value := none, numerator := none, sampleSize := none, scenarioId := none }

theorem scenarioMask_frame (row : MetricRow) (s : BenchmarkScenario) :
    scenarioMask row.frame s = scenarioMask row s := rfl

theorem key_frame (row : MetricRow) : row.frame.key = row.key := rfl

/-- Which rows match depends on their frames. -/
theorem matching_frame (rows : List MetricRow) (s : BenchmarkScenario) :
    matching (rows.map MetricRow.frame) s = matching rows s := by
  unfold matching
  rw [List.length_map]
  refine List.filter_congr fun i _ => ?_
  rw [List.getElem?_map, Option.any_map]
  rfl

theorem matching_congr {rows rows' : List MetricRow} (s : BenchmarkScenario)
    (h : rows.map MetricRow.frame = rows'.map MetricRow.frame) :
    matching rows s = matching rows' s := by
  rw [← matching_frame rows, h, matching_frame]

theorem matching_nodup (rows : List MetricRow) (s : BenchmarkScenario) :
    (matching rows s).Nodup := List.nodup_range.filter _

theorem mem_matching {rows : List MetricRow} {s : BenchmarkScenario} :
    i ∈ matching rows s ↔ ∃ row, rows[i]? = some row ∧ scenarioMask row s = true := by
  rw [matching, List.mem_filter, List.mem_range, Option.any_eq_true]
  constructor
  · rintro ⟨-, row, hrow, hmask⟩
    exact ⟨row, hrow, hmask⟩
  · rintro ⟨row, hrow, hmask⟩
    exact ⟨(List.getElem?_eq_some_iff.mp hrow).1, row, hrow, hmask⟩

/-- The rows a scenario matches. -/
def matchedRows (rows : List MetricRow) (s : BenchmarkScenario) : List MetricRow :=
  rows.filter fun row => scenarioMask row s

/-- The rows at the indices of a scenario are the ones it matches, in order. -/
theorem matching_rows (rows : List MetricRow) (s : BenchmarkScenario) :
    (matching rows s).map (fun i => rows[i]?) = (matchedRows rows s).map some :=
  Partition.filter_places _ rows

theorem matching_length (rows : List MetricRow) (s : BenchmarkScenario) :
    (matching rows s).length = (matchedRows rows s).length := by
  have h := congrArg List.length (matching_rows rows s)
  rwa [List.length_map, List.length_map] at h

section
variable [DetectionMath]

theorem rewritten_frame (definition : MetricDefinition) (row : MetricRow) (x : Rat) :
    (rewritten definition row x).frame = row.frame := by
  unfold rewritten
  split
  · rfl
  · split
    · rfl
    · split
      · rfl
      · split <;> rfl

theorem perturbedRow_ok {s : BenchmarkScenario} {definition : MetricDefinition} {row : MetricRow}
    {sequence : Nat} : perturbedRow s definition sequence row = .ok row' ↔
      ∃ value, row.value = some value ∧
      row' = { rewritten definition row (withinExpected definition (perturb value s sequence)) with
        scenarioId := some s.scenarioId } := by
  simp only [perturbedRow, bind_eq_ok, Checks.need_ok, pure_eq_ok]
  exact exists_congr fun value => and_congr Iff.rfl eq_comm

theorem perturbedRow_frame {s : BenchmarkScenario} {definition : MetricDefinition}
    {row : MetricRow} {sequence : Nat} (h : perturbedRow s definition sequence row = .ok row') :
    row'.frame = row.frame ∧ row'.scenarioId = some s.scenarioId := by
  obtain ⟨value, -, rfl⟩ := perturbedRow_ok.mp h
  exact ⟨rewritten_frame definition row _, rfl⟩

theorem perturbAt_ok {s : BenchmarkScenario} {definition : MetricDefinition}
    {rows : List MetricRow} {sequence : Nat} :
    perturbAt s definition rows (index, sequence) = .ok rows' ↔
      ∃ row row', rows[index]? = some row ∧ perturbedRow s definition sequence row = .ok row' ∧
        rows' = rows.set index row' := by
  simp only [perturbAt, bind_eq_ok, Checks.need_ok, pure_eq_ok]
  constructor
  · rintro ⟨row, hrow, row', hrow', rfl⟩
    exact ⟨row, row', hrow, hrow', rfl⟩
  · rintro ⟨row, row', hrow, hrow', rfl⟩
    exact ⟨row, hrow, row', hrow', rfl⟩

/-- The loop over the indices of a scenario: each row is rewritten with its
place as the sequence number, and the other rows stay. -/
theorem loop_perturbAt {s : BenchmarkScenario} {definition : MetricDefinition} {indices : List Nat}
    {rows rows' : List MetricRow} {k : Nat} (hnodup : indices.Nodup)
    (h : loop (perturbAt s definition) rows (indices.zipIdx k) = .ok rows') :
    rows'.map MetricRow.frame = rows.map MetricRow.frame ∧
      (∀ i ∉ indices, rows'[i]? = rows[i]?) ∧
      ∀ j i, indices[j]? = some i → ∃ row row', rows[i]? = some row ∧ rows'[i]? = some row' ∧
        perturbedRow s definition (k + j) row = .ok row' := by
  induction indices generalizing rows k with
  | nil =>
    obtain rfl := Except.ok.inj h
    exact ⟨rfl, fun _ _ => rfl, fun j i hj => nomatch hj⟩
  | cons index indices ih =>
    rw [List.zipIdx_cons, Checks.loop_cons] at h
    obtain ⟨mid, hmid, h⟩ := h
    obtain ⟨row, new, hrow, hnew, rfl⟩ := perturbAt_ok.mp hmid
    obtain ⟨hindex, hrest⟩ := List.nodup_cons.mp hnodup
    obtain ⟨hframes, hother, hplaces⟩ := ih hrest h
    obtain ⟨hlt, hget⟩ := List.getElem?_eq_some_iff.mp hrow
    refine ⟨?_, fun i hi => ?_, fun j i hj => ?_⟩
    · have hlt : index < (rows.map MetricRow.frame).length := by rwa [List.length_map]
      have hsame : (rows.map MetricRow.frame)[index] = new.frame := by
        rw [List.getElem_map, hget, (perturbedRow_frame hnew).1]
      rw [hframes, List.map_set, ← hsame]
      exact List.set_getElem_self _
    · rw [List.mem_cons, not_or] at hi
      rw [hother i hi.2, List.getElem?_set_ne (Ne.symm hi.1)]
    · cases j with
      | zero =>
        obtain rfl := Option.some.inj hj
        refine ⟨row, new, hrow, ?_, hnew⟩
        rw [hother _ hindex, List.getElem?_set_self hlt]
      | succ j =>
        rw [List.getElem?_cons_succ] at hj
        obtain ⟨row, row', hold, hnew, hperturbed⟩ := hplaces j i hj
        have hne : index ≠ i := fun heq => hindex (heq ▸ List.mem_of_getElem? hj)
        rw [List.getElem?_set_ne hne] at hold
        refine ⟨row, row', hold, hnew, ?_⟩
        rwa [Nat.add_assoc, Nat.add_comm 1 j] at hperturbed

-- ---------------------------------------------------------------------------
-- The loop over the scenarios
-- ---------------------------------------------------------------------------

/-- The row at an index is the `k`-th row of a scenario, perturbed. -/
def PerturbedAt (metrics table : List MetricRow) (s : BenchmarkScenario) (k i : Nat) : Prop :=
  ∃ row row' definition, metrics[i]? = some row ∧ table[i]? = some row' ∧
    metricDefinition s.metric = .ok definition ∧ perturbedRow s definition k row = .ok row'

/-- What some scenarios have done to the rows. -/
structure InjectedBy (rows : List MetricRow) (done : List BenchmarkScenario) (state : Injection) :
    Prop where
  frames : state.rows.map MetricRow.frame = rows.map MetricRow.frame
  untouched : ∀ i, (∀ s ∈ done, i ∉ matching rows s) → state.rows[i]? = rows[i]?
  touched : ∀ s ∈ done, ∀ k i, (matching rows s)[k]? = some i → PerturbedAt rows state.rows s k i
  counts : ∀ s ∈ done, (matching rows s).length = s.durationPeriods
  disjoint : done.Pairwise fun s s' => ∀ i ∈ matching rows s, i ∉ matching rows s'
  occupied : ∀ i, i ∈ state.occupied ↔ ∃ s ∈ done, i ∈ matching rows s
  truth : state.truth = done.map fun s => truthRow s s.durationPeriods

theorem injectedBy_start (rows : List MetricRow) : InjectedBy rows [] ⟨rows, [], []⟩ := by
  constructor <;> simp

/-- One more scenario. -/
theorem InjectedBy.step {rows : List MetricRow} {done : List BenchmarkScenario}
    {s : BenchmarkScenario} {state state' : Injection} (hdone : InjectedBy rows done state)
    (h : applyScenario state s = .ok state') : InjectedBy rows (done ++ [s]) state' := by
  simp only [applyScenario, bind_eq_ok, Checks.raiseIf_ok, pure_eq_ok, exists_and_left,
    exists_const, not_not] at h
  obtain ⟨hcount, hfree, definition, hdefinition, rows', hloop, rfl⟩ := h
  have hmatching : matching state.rows s = matching rows s := matching_congr s hdone.frames
  rw [hmatching] at hcount hfree hloop
  obtain ⟨hframes, hother, hplaces⟩ := loop_perturbAt (matching_nodup rows s) hloop
  have hfree : ∀ i ∈ matching rows s, ∀ s' ∈ done, i ∉ matching rows s' := by
    intro i hi s' hs' hi'
    exact hfree ⟨i, hi, (hdone.occupied i).mpr ⟨s', hs', hi'⟩⟩
  constructor
  case frames => rw [hframes, hdone.frames]
  case untouched =>
    intro i hi
    rw [hother i (hi s (List.mem_append_right _ (List.mem_singleton_self s)))]
    exact hdone.untouched i fun s' hs' => hi s' (List.mem_append_left _ hs')
  case touched =>
    intro s' hs' k i hk
    have hi := List.mem_of_getElem? hk
    rcases List.mem_append.mp hs' with hs' | hs'
    · obtain ⟨row, row', definition, hrow, hrow', hd, hperturbed⟩ := hdone.touched s' hs' k i hk
      refine ⟨row, row', definition, hrow, ?_, hd, hperturbed⟩
      rw [hother i fun hmem => hfree i hmem s' hs' hi]
      exact hrow'
    · obtain rfl := List.mem_singleton.mp hs'
      obtain ⟨row, row', hrow, hrow', hperturbed⟩ := hplaces k i hk
      rw [Nat.zero_add] at hperturbed
      refine ⟨row, row', definition, ?_, hrow', hdefinition, hperturbed⟩
      rw [← hrow]
      exact (hdone.untouched i (hfree i hi)).symm
  case counts =>
    intro s' hs'
    rcases List.mem_append.mp hs' with hs' | hs'
    · exact hdone.counts s' hs'
    · rw [List.mem_singleton.mp hs']
      exact hcount
  case disjoint =>
    refine List.pairwise_append.mpr ⟨hdone.disjoint, List.pairwise_singleton _ _, ?_⟩
    intro s' hs' s'' hs'' i hi hi'
    rw [List.mem_singleton.mp hs''] at hi'
    exact hfree i hi' s' hs' hi
  case occupied =>
    intro i
    rw [List.mem_append, hdone.occupied, hmatching]
    simp only [List.mem_append, List.mem_singleton, or_and_right, exists_or, exists_eq_left]
  case truth => rw [hmatching, hdone.truth, List.map_append, hcount]; rfl

/-- All scenarios. -/
theorem InjectedBy.loop {rows : List MetricRow} {done scenarios : List BenchmarkScenario}
    {state state' : Injection} (hdone : InjectedBy rows done state)
    (h : loop applyScenario state scenarios = .ok state') :
    InjectedBy rows (done ++ scenarios) state' := by
  induction scenarios generalizing done state with
  | nil =>
    obtain rfl := Except.ok.inj h
    rwa [List.append_nil]
  | cons s scenarios ih =>
    obtain ⟨mid, hmid, hrest⟩ := Checks.loop_cons.mp h
    have hall := ih (hdone.step hmid) hrest
    rwa [List.append_assoc, List.singleton_append] at hall

/-- The rows before they are sorted. -/
theorem applyBenchmarkScenarios_ok {metrics : List MetricRow} {scenarios : List BenchmarkScenario}
    (hne : scenarios ≠ []) (h : applyBenchmarkScenarios metrics scenarios = .ok (table, truth)) :
    ∃ state, InjectedBy (metrics.map MetricRow.plain) scenarios state ∧
      table = byKey MetricRow.key state.rows ∧ truth = byKey GroundTruth.scenarioId state.truth := by
  simp only [applyBenchmarkScenarios, if_neg hne, bind_eq_ok, pure_eq_ok, Prod.mk.injEq] at h
  obtain ⟨state, hstate, rfl, rfl⟩ := h
  exact ⟨state, (injectedBy_start _).loop hstate, rfl, rfl⟩

end

-- ---------------------------------------------------------------------------
-- A selected table
-- ---------------------------------------------------------------------------

/-- What names a series: metric, grain, cohort and dimensions. -/
def MetricRow.labels (row : MetricRow) : String × TimeGrain × String × List (Option String) :=
  (row.metricName, row.timeGrain, row.cohortName, row.dimensions)

/-- `_select_metric_observations`: one row for a series and a period, in order;
periods are truncated to the grain and denominators are counts. -/
structure Selected (metrics : List MetricRow) : Prop where
  unique : (metrics.map fun r => (r.seriesId, r.periodStart)).Nodup
  ordered : metrics.Pairwise fun r r' => r.key ≤ r'.key
  series : ∀ r ∈ metrics, ∀ r' ∈ metrics, r.seriesId = r'.seriesId ↔ r.labels = r'.labels
  aligned : ∀ r ∈ metrics, periodDelta r.timeGrain ∣ r.periodStart
  periods : ∀ r ∈ metrics, r.periodEnd = r.periodStart + periodDelta r.timeGrain
  denominators : ∀ r ∈ metrics, ∀ d ∈ r.denominator, 0 ≤ d

/-- All rows a scenario matches are of one series. -/
def OneSeries (metrics : List MetricRow) (s : BenchmarkScenario) : Prop :=
  ∀ r ∈ metrics, ∀ r' ∈ metrics, scenarioMask r s = true → scenarioMask r' s = true →
    r.seriesId = r'.seriesId

/-- The rows a scenario matches are consecutive periods of one series, as many
as it lasts, in the order of time. -/
def Hit (metrics : List MetricRow) (s : BenchmarkScenario) : Prop :=
  ∃ seriesId first, (matchedRows metrics s).map (fun row => (row.seriesId, row.periodStart)) =
    (List.range s.durationPeriods).map fun (k : Nat) =>
      (seriesId, first + (k : Int) * periodDelta s.timeGrain)

/-- A ratio with a denominator is a number of successes in so many trials. -/
def RatioRow [DetectionMath] (row : MetricRow) : Prop :=
  ∀ definition, metricDefinition row.metricName = .ok definition →
    definition.metricType = .ratio → ∀ d ∈ row.denominator, ∃ numerator ∈ row.numerator,
      0 ≤ numerator ∧ numerator ≤ pyRound d ∧
        (0 < pyRound d → row.value = some (div numerator (pyRound d : Int)))

/-- The injected table hits what the scenarios say. -/
structure ScenariosHit [DetectionMath] (metrics : List MetricRow)
    (scenarios : List BenchmarkScenario) (table : List MetricRow) : Prop where
  hit : ∀ s ∈ scenarios, Hit metrics s
  length : table.length = metrics.length
  perturbed : ∀ s ∈ scenarios, ∀ k i, (matching metrics s)[k]? = some i →
    PerturbedAt (metrics.map MetricRow.plain) table s k i
  alone : scenarios.Pairwise fun s s' => ∀ row ∈ metrics,
    scenarioMask row s = true → scenarioMask row s' = false
  unchanged : ∀ (i : Nat) (row row' : MetricRow), metrics[i]? = some row →
    table[i]? = some row' → row'.scenarioId = none → row' = row.plain
  ratios : ∀ row ∈ table, row.scenarioId ≠ none → RatioRow row

theorem key_series {metrics : List MetricRow} (hmetrics : Selected metrics) {r r' : MetricRow}
    (hr : r ∈ metrics) (hr' : r' ∈ metrics) (h : r.key = r'.key) :
    r.seriesId = r'.seriesId ∧ r.periodStart = r'.periodStart := by
  simp only [MetricRow.key, toLex_inj, Prod.mk.injEq] at h
  obtain ⟨hmetric, hgrain, hcohort, hdimensions, hperiod⟩ := h
  have hgrain : r.timeGrain = r'.timeGrain := by
    revert hgrain
    cases r.timeGrain <;> cases r'.timeGrain <;> decide
  have hinjective : Function.Injective fun d : Option String =>
      d.elim (⊤ : WithTop String) fun value => (value : WithTop String) := by
    intro d d' hd
    cases d <;> cases d' <;> simp_all
  have hdimensions := hinjective.list_map hdimensions
  refine ⟨(hmetrics.series r hr r' hr').mpr ?_, hperiod⟩
  simp only [MetricRow.labels, hmetric, hgrain, hcohort, hdimensions]

theorem Selected.strict {metrics : List MetricRow} (hmetrics : Selected metrics) :
    Strict MetricRow.key metrics := by
  have hunique := hmetrics.unique
  rw [List.Nodup, List.pairwise_map] at hunique
  refine (hmetrics.ordered.and hunique).imp_of_mem fun {r r'} hr hr' h => ?_
  refine lt_of_le_of_ne h.1 fun heq => h.2 ?_
  obtain ⟨hseries, hperiod⟩ := key_series hmetrics hr hr' heq
  exact Prod.ext hseries hperiod

theorem scenarioMask_true {row : MetricRow} {s : BenchmarkScenario}
    (h : scenarioMask row s = true) : row.metricName = s.metric ∧ row.timeGrain = s.timeGrain ∧
      row.cohortName = s.cohort ∧ s.startAt ≤ row.periodStart ∧ row.periodStart < s.endAt := by
  rw [scenarioMask, Bool.and_eq_true, decide_eq_true_eq] at h
  exact h.1

/-- The rows of one series come in the order of time. -/
theorem Selected.matched_strict {metrics : List MetricRow} (hmetrics : Selected metrics)
    {s : BenchmarkScenario} (hone : OneSeries metrics s) :
    Strict MetricRow.periodStart (matchedRows metrics s) := by
  refine List.Pairwise.imp_of_mem (fun {r r'} hr hr' hlt => ?_)
    (hmetrics.strict.filter fun row => scenarioMask row s)
  obtain ⟨hr, hmask⟩ := List.mem_filter.mp hr
  obtain ⟨hr', hmask'⟩ := List.mem_filter.mp hr'
  have hlabels := (hmetrics.series r hr r' hr').mp (hone r hr r' hr' hmask hmask')
  simp only [MetricRow.labels, Prod.mk.injEq] at hlabels
  obtain ⟨hmetric, hgrain, hcohort, hdimensions⟩ := hlabels
  simp only [MetricRow.key, hmetric, hgrain, hcohort, hdimensions, Prod.Lex.toLex_lt_toLex,
    lt_irrefl, true_and, false_or] at hlt
  exact hlt

/-- A count of rows is enough when they are of one series. -/
theorem Selected.hit {metrics : List MetricRow} (hmetrics : Selected metrics)
    {s : BenchmarkScenario} (hone : OneSeries metrics s)
    (hcount : (matching metrics s).length = s.durationPeriods) : Hit metrics s := by
  rw [matching_length] at hcount
  have hsorted : ((matchedRows metrics s).map MetricRow.periodStart).Pairwise (· < ·) :=
    List.pairwise_map.mpr (hmetrics.matched_strict hone)
  have hwindow : ∀ x ∈ (matchedRows metrics s).map MetricRow.periodStart,
      periodDelta s.timeGrain ∣ x ∧ s.startAt ≤ x ∧ x < s.startAt +
        ((matchedRows metrics s).map MetricRow.periodStart).length * periodDelta s.timeGrain := by
    intro x hx
    obtain ⟨row, hrow, rfl⟩ := List.mem_map.mp hx
    obtain ⟨hrow, hmask⟩ := List.mem_filter.mp hrow
    obtain ⟨-, hgrain, -, hlow, hhigh⟩ := scenarioMask_true hmask
    rw [List.length_map, hcount]
    exact ⟨hgrain ▸ hmetrics.aligned row hrow, hlow, hhigh⟩
  obtain ⟨first, hstarts⟩ := Grid.consecutive hsorted (fun x hx => (hwindow x hx).1)
    (fun x hx => (hwindow x hx).2.1) fun x hx => (hwindow x hx).2.2
  obtain ⟨seriesId, hseries⟩ : ∃ seriesId, ∀ row ∈ matchedRows metrics s,
      row.seriesId = seriesId := by
    by_cases hempty : matchedRows metrics s = []
    · exact ⟨"", fun row hrow => by rw [hempty] at hrow; contradiction⟩
    · obtain ⟨r, hr⟩ := List.exists_mem_of_ne_nil _ hempty
      obtain ⟨hr, hmask⟩ := List.mem_filter.mp hr
      refine ⟨r.seriesId, fun row hrow => ?_⟩
      obtain ⟨hrow, hmask'⟩ := List.mem_filter.mp hrow
      exact hone row hrow r hr hmask' hmask
  have hpairs : (matchedRows metrics s).map (fun row => (row.seriesId, row.periodStart)) =
      ((matchedRows metrics s).map MetricRow.periodStart).map fun period => (seriesId, period) := by
    rw [List.map_map]
    exact List.map_congr_left fun row hrow => Prod.ext (hseries row hrow) rfl
  rw [List.length_map, hcount] at hstarts
  refine ⟨seriesId, first, ?_⟩
  rw [hpairs, hstarts, List.map_map]
  rfl

theorem Hit.oneSeries {metrics : List MetricRow} {s : BenchmarkScenario} (h : Hit metrics s) :
    OneSeries metrics s := by
  obtain ⟨seriesId, first, hpairs⟩ := h
  have hall : ∀ row ∈ metrics, scenarioMask row s = true → row.seriesId = seriesId := by
    intro row hrow hmask
    have hmem : (row.seriesId, row.periodStart) ∈
        (matchedRows metrics s).map fun row => (row.seriesId, row.periodStart) :=
      List.mem_map_of_mem (List.mem_filter.mpr ⟨hrow, hmask⟩)
    rw [hpairs] at hmem
    obtain ⟨k, -, hk⟩ := List.mem_map.mp hmem
    exact (congrArg Prod.fst hk).symm
  intro r hr r' hr' hmask hmask'
  rw [hall r hr hmask, hall r' hr' hmask']

theorem pyRound_nonneg (h : 0 ≤ q) : 0 ≤ pyRound q := by
  have hfloor : 0 ≤ ⌊q⌋ := Int.floor_nonneg.mpr h
  simp only [pyRound]
  split
  · exact hfloor
  · split
    · omega
    · split <;> omega

section
variable [DetectionMath] {metrics : List MetricRow} {scenarios : List BenchmarkScenario}

/-- The successes of a rewritten ratio are between nothing and all. -/
theorem rewritten_ratio {definition : MetricDefinition} {row : MetricRow} {d : Rat}
    (htype : definition.metricType = .ratio) (hdenominator : row.denominator = some d)
    (hd : 0 ≤ d) : ∃ numerator ∈ (rewritten definition row x).numerator,
      0 ≤ numerator ∧ numerator ≤ pyRound d ∧ (0 < pyRound d →
        (rewritten definition row x).value = some (div numerator (pyRound d : Int))) := by
  have htrials : trialsOf d = pyRound d := max_eq_left (pyRound_nonneg hd)
  have hrow : rewritten definition row x =
      { row with
        numerator := some ((min (max (pyRound (mul x (pyRound d : Int))) 0) (pyRound d) : Int) : Rat)
        value := if pyRound d = 0 then none else
          some (div ((min (max (pyRound (mul x (pyRound d : Int))) 0) (pyRound d) : Int) : Rat)
            (pyRound d : Int)) } := by
    unfold rewritten
    simp only [htype, hdenominator, decide_true, htrials]
  rw [hrow]
  refine ⟨_, rfl, ?_, ?_, fun hpos => if_neg (ne_of_gt hpos)⟩
  · exact Int.cast_nonneg (le_min (le_max_right _ _) (pyRound_nonneg hd))
  · exact Int.cast_le.mpr (min_le_right _ _)

theorem perturbedRow_ratio {s : BenchmarkScenario} {definition : MetricDefinition}
    {row : MetricRow} (hmetric : row.metricName = s.metric)
    (hdefinition : metricDefinition s.metric = .ok definition)
    (hdenominator : ∀ d ∈ row.denominator, 0 ≤ d)
    (h : perturbedRow s definition k row = .ok row') : RatioRow row' := by
  have hframe := (perturbedRow_frame h).1
  have hname : row'.metricName = s.metric := (congrArg MetricRow.metricName hframe).trans hmetric
  have hsame : row'.frame.denominator = row.frame.denominator :=
    congrArg MetricRow.denominator hframe
  change row'.denominator = row.denominator at hsame
  obtain ⟨value, -, rfl⟩ := perturbedRow_ok.mp h
  intro definition' hdefinition' htype d hd
  rw [hname, hdefinition] at hdefinition'
  obtain rfl := Except.ok.inj hdefinition'
  rw [hsame] at hd
  exact rewritten_ratio htype hd (hdenominator d hd)

omit [DetectionMath] in
theorem plain_frames (metrics : List MetricRow) :
    (metrics.map MetricRow.plain).map MetricRow.frame = metrics.map MetricRow.frame := by
  rw [List.map_map]
  rfl

/-- The injected table, row by row. -/
theorem Selected.injected (hmetrics : Selected metrics)
    (h : applyBenchmarkScenarios metrics scenarios = .ok (table, truth)) :
    ∃ state, InjectedBy (metrics.map MetricRow.plain) scenarios state ∧ table = state.rows := by
  by_cases hne : scenarios = []
  · subst hne
    simp only [applyBenchmarkScenarios, if_true, pure_eq_ok, Prod.mk.injEq] at h
    exact ⟨_, injectedBy_start _, h.1.symm⟩
  · obtain ⟨state, hstate, rfl, -⟩ := applyBenchmarkScenarios_ok hne h
    refine ⟨state, hstate, Strict.byKey_eq ?_⟩
    -- a perturbation keeps what the table is sorted by
    have hframes : Strict MetricRow.key (state.rows.map MetricRow.frame) := by
      rw [hstate.frames, plain_frames]
      exact hmetrics.strict.map key_frame
    rw [Strict, List.pairwise_map] at hframes
    exact hframes

/-- The scenarios hit what they say exactly when each is of one series. -/
theorem scenarios_hit_iff (hmetrics : Selected metrics)
    (h : applyBenchmarkScenarios metrics scenarios = .ok (table, truth)) :
    ScenariosHit metrics scenarios table ↔ ∀ s ∈ scenarios, OneSeries metrics s := by
  obtain ⟨state, hstate, rfl⟩ := hmetrics.injected h
  have hmatching : ∀ s, matching (metrics.map MetricRow.plain) s = matching metrics s :=
    fun s => matching_congr s (plain_frames metrics)
  constructor
  · exact fun hits s hs => (hits.hit s hs).oneSeries
  intro hone
  constructor
  case hit =>
    intro s hs
    have hcount := hstate.counts s hs
    rw [hmatching] at hcount
    exact hmetrics.hit (hone s hs) hcount
  case length =>
    have hlength := congrArg List.length hstate.frames
    simpa using hlength
  case perturbed =>
    intro s hs k i hi
    rw [← hmatching] at hi
    exact hstate.touched s hs k i hi
  case alone =>
    refine hstate.disjoint.imp fun {s s'} hdisjoint row hrow hmask => ?_
    by_contra hmask'
    rw [Bool.not_eq_false] at hmask'
    obtain ⟨i, hi⟩ := List.mem_iff_getElem?.mp hrow
    have hmem : i ∈ matching metrics s := mem_matching.mpr ⟨row, hi, hmask⟩
    have hmem' : i ∈ matching metrics s' := mem_matching.mpr ⟨row, hi, hmask'⟩
    rw [← hmatching] at hmem hmem'
    exact hdisjoint i hmem hmem'
  case unchanged =>
    intro i row row' hrow hrow' hnone
    have hplain : (metrics.map MetricRow.plain)[i]? = some row.plain := by
      rw [List.getElem?_map, hrow]
      rfl
    by_cases htouched : ∃ s ∈ scenarios, i ∈ matching (metrics.map MetricRow.plain) s
    · obtain ⟨s, hs, hi⟩ := htouched
      obtain ⟨k, hk⟩ := List.mem_iff_getElem?.mp hi
      obtain ⟨old, new, definition, -, hnew, -, hperturbed⟩ := hstate.touched s hs k i hk
      obtain rfl := Option.some.inj (hnew.symm.trans hrow')
      rw [(perturbedRow_frame hperturbed).2] at hnone
      contradiction
    · have hsame := hstate.untouched i fun s hs hi => htouched ⟨s, hs, hi⟩
      exact Option.some.inj (hrow'.symm.trans (hsame.trans hplain))
  case ratios =>
    intro row' hrow' hsome
    obtain ⟨i, hi⟩ := List.mem_iff_getElem?.mp hrow'
    by_cases htouched : ∃ s ∈ scenarios, i ∈ matching (metrics.map MetricRow.plain) s
    · obtain ⟨s, hs, hmem⟩ := htouched
      obtain ⟨k, hk⟩ := List.mem_iff_getElem?.mp hmem
      obtain ⟨old, new, definition, hold, hnew, hdefinition, hperturbed⟩ :=
        hstate.touched s hs k i hk
      obtain rfl := Option.some.inj (hnew.symm.trans hi)
      obtain ⟨row, hrow, hmask⟩ := mem_matching.mp hmem
      obtain rfl := Option.some.inj (hrow.symm.trans hold)
      refine perturbedRow_ratio (scenarioMask_true hmask).1 hdefinition ?_ hperturbed
      rw [List.getElem?_map, Option.map_eq_some_iff] at hold
      obtain ⟨source, hsource, rfl⟩ := hold
      exact hmetrics.denominators source (List.mem_of_getElem? hsource)
    · have hsame := hstate.untouched i fun s hs hmem => htouched ⟨s, hs, hmem⟩
      rw [hi, List.getElem?_map, eq_comm, Option.map_eq_some_iff] at hsame
      obtain ⟨source, -, rfl⟩ := hsame
      exact absurd rfl hsome

end

-- ---------------------------------------------------------------------------
-- Two regions at the end of a table
-- ---------------------------------------------------------------------------

namespace Sample

/-- The completed orders of a region in an hour. -/
def regionOrders (region : String) (hour : Nat) (count : Nat) : MetricRow where
  seriesId := "orders-" ++ region
  metricName := "completed_orders"
  displayName := "Completed orders"
  domain := "orders"
  metricType := "count"
  unit := "orders"
  higherIsBetter := some true
  timeGrain := .hour
  periodStart := hour * periodDelta .hour
  periodEnd := hour * periodDelta .hour + periodDelta .hour
  cohortName := "region"
  dimensionCount := 1
  dimensions := some region :: List.replicate 15 none
  value := some count
  numerator := some count
  denominator := none
  sampleSize := some count
  qualityStatus := some "ok"
  scenarioId := none

/-- Two regions with two hours each. -/
def regionMetrics : List MetricRow :=
  [regionOrders "north" 1 40, regionOrders "north" 2 44, regionOrders "south" 1 20,
    regionOrders "south" 2 24]

/-- A drop in the orders of a region, or of each when none is named. -/
def ordersDrop (dimensionValues : List (String × String)) (hour duration : Nat) :
    BenchmarkScenario where
  scenarioId := "orders-drop"
  metric := "completed_orders"
  timeGrain := .hour
  cohort := "region"
  dimensionValues := dimensionValues
  startAt := hour * periodDelta .hour
  durationPeriods := duration
  kind := .levelShift
  magnitude := -1 / 2
  expectedDirection := .decrease

theorem regionMetrics_selected : Selected regionMetrics := by
  constructor
  case unique => decide
  case ordered => decide +kernel
  case series => decide
  case aligned => decide
  case periods => decide
  case denominators => decide

theorem ordersDrop_valid : (ordersDrop [] 2 2).Valid := by
  constructor
  case metric => exact ⟨_, rfl⟩
  case cohort => decide
  case dimensions => exact fun _ h => nomatch h
  case keys => exact List.nodup_nil
  case durationPeriods => decide
  case magnitude => decide +kernel
  case direction => exact .inr ⟨rfl, by decide +kernel⟩
  case spike => exact nofun

end Sample

attribute [local instance] exactMath

/-- A scenario that names its region. -/
theorem scenarios_hit_sample : ∃ table truth, applyBenchmarkScenarios Sample.regionMetrics
      [Sample.ordersDrop [("region", "south")] 1 2] = .ok (table, truth) ∧
    (ScenariosHit Sample.regionMetrics [Sample.ordersDrop [("region", "south")] 1 2] table ↔
      ∀ s ∈ [Sample.ordersDrop [("region", "south")] 1 2], OneSeries Sample.regionMetrics s) := by
  have hok : (applyBenchmarkScenarios Sample.regionMetrics
      [Sample.ordersDrop [("region", "south")] 1 2]).isOk = true := by decide +kernel
  cases h : applyBenchmarkScenarios Sample.regionMetrics
      [Sample.ordersDrop [("region", "south")] 1 2] with
  | error e =>
    rw [h] at hok
    contradiction
  | ok result =>
    exact ⟨result.1, result.2, rfl, scenarios_hit_iff Sample.regionMetrics_selected h⟩

/-- Two periods are matched at the end of the table, one of each region. -/
theorem scenario_hits_two_series : Selected Sample.regionMetrics ∧
    (Sample.ordersDrop [] 2 2).Valid ∧ ∃ table truth,
      applyBenchmarkScenarios Sample.regionMetrics [Sample.ordersDrop [] 2 2] =
        .ok (table, truth) ∧
      ¬ ScenariosHit Sample.regionMetrics [Sample.ordersDrop [] 2 2] table := by
  have hok : (applyBenchmarkScenarios Sample.regionMetrics
      [Sample.ordersDrop [] 2 2]).isOk = true := by decide +kernel
  have hseries : ¬ OneSeries Sample.regionMetrics (Sample.ordersDrop [] 2 2) := by
    unfold OneSeries
    decide
  refine ⟨Sample.regionMetrics_selected, Sample.ordersDrop_valid, ?_⟩
  cases h : applyBenchmarkScenarios Sample.regionMetrics [Sample.ordersDrop [] 2 2] with
  | error e =>
    rw [h] at hok
    contradiction
  | ok result =>
    refine ⟨result.1, result.2, rfl, fun hits => ?_⟩
    exact hseries (hits.hit _ (List.mem_singleton_self _)).oneSeries

end Paic.Detection
