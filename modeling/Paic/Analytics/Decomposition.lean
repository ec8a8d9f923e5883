import Paic.Analytics.Contribution
import Paic.Lib.Entries
import Paic.Lib.Kitagawa

/-!
# The contributions add up

Over the cohorts of both periods, the shares times the rates sum to the overall
rates, so that the effects sum to the overall change. Exchanging the periods
changes the signs.
-/

namespace Paic.Analytics

open Checks (bind_eq_ok raiseIf_neg)
open Kitagawa (rateEffect mixEffect)

/-- Counts of the cohorts of a period: a cohort with nothing below the line has
nothing above it. -/
structure PeriodRows.Valid (rows : PeriodRows) : Prop where
  nodup : (rows.map Prod.fst).Nodup
  nonneg : ∀ entry ∈ rows, 0 ≤ entry.2.2
  zero : ∀ entry ∈ rows, entry.2.2 = 0 → entry.2.1 = 0

-- ---------------------------------------------------------------------------
-- One period
-- ---------------------------------------------------------------------------

/-- The sum over names of what stands at them, when nothing stands elsewhere. -/
theorem sum_cells {rows : PeriodRows} (h : rows.Valid) {values : List String} (hnodup : values.Nodup)
    (hvalues : ∀ entry ∈ rows, entry.1 ∈ values) {f : Rat × Rat → Rat} (hzero : f (0, 0) = 0) :
    (values.map fun value => f (rows.cell value)).sum = (rows.map fun entry => f entry.2).sum := by
  have hcell : ∀ entry ∈ rows, rows.cell entry.1 = entry.2 := fun entry hentry => by
    rw [PeriodRows.cell, Entries.lookup_of_mem h.nodup hentry, Option.getD_some]
  have hnone : ∀ value ∈ values.toFinset, value ∉ (rows.map Prod.fst).toFinset →
      f (rows.cell value) = 0 := by
    intro value _ hvalue
    cases hlookup : rows.lookup value with
    | none => rw [PeriodRows.cell, hlookup, Option.getD_none, hzero]
    | some cell =>
      have hmem := List.mem_map_of_mem (f := Prod.fst) (Entries.mem_of_lookup hlookup)
      exact absurd (List.mem_toFinset.mpr hmem) hvalue
  have hsubset : (rows.map Prod.fst).toFinset ⊆ values.toFinset := by
    intro value hvalue
    obtain ⟨entry, hentry, rfl⟩ := List.mem_map.mp (List.mem_toFinset.mp hvalue)
    exact List.mem_toFinset.mpr (hvalues entry hentry)
  rw [← List.sum_toFinset _ hnodup, ← Finset.sum_subset hsubset hnone, List.sum_toFinset _ h.nodup,
    List.map_map]
  exact congrArg List.sum (List.map_congr_left fun entry hentry => congrArg f (hcell entry hentry))

/-- A cell of a valid period. -/
theorem PeriodRows.Valid.cell {rows : PeriodRows} (h : rows.Valid) (value : String) :
    0 ≤ (rows.cell value).2 ∧ ((rows.cell value).2 = 0 → (rows.cell value).1 = 0) := by
  cases hlookup : rows.lookup value with
  | none =>
    rw [PeriodRows.cell, hlookup, Option.getD_none]
    exact ⟨le_rfl, fun _ => rfl⟩
  | some cell =>
    have hmem := Entries.mem_of_lookup hlookup
    rw [PeriodRows.cell, hlookup, Option.getD_some]
    exact ⟨h.nonneg _ hmem, h.zero _ hmem⟩

/-- The share of a cohort times its rate is its part of the overall rate. -/
theorem share_mul_rate {rows : PeriodRows} (h : rows.Valid) (hpos : 0 < rows.denominator)
    (value : String) :
    safeRate (rows.cell value).2 rows.denominator *
      safeRate (rows.cell value).1 (rows.cell value).2 =
      (rows.cell value).1 / rows.denominator := by
  obtain ⟨hnonneg, hzero⟩ := h.cell value
  rw [safeRate, if_pos hpos, safeRate]
  split
  case isTrue hcell =>
    rw [div_mul_div_comm, mul_comm rows.denominator, mul_div_mul_left _ _ hcell.ne']
  case isFalse hcell =>
    have hnone : (rows.cell value).2 = 0 := le_antisymm (not_lt.mp hcell) hnonneg
    rw [hzero hnone, mul_zero, zero_div]

/-- The parts of the overall rate make it up. -/
theorem sum_share_mul_rate {rows : PeriodRows} (h : rows.Valid) (hpos : 0 < rows.denominator)
    {values : List String} (hnodup : values.Nodup) (hvalues : ∀ entry ∈ rows, entry.1 ∈ values) :
    (values.map fun value => safeRate (rows.cell value).2 rows.denominator *
      safeRate (rows.cell value).1 (rows.cell value).2).sum =
      safeRate rows.numerator rows.denominator := by
  have hparts : (values.map fun value => safeRate (rows.cell value).2 rows.denominator *
      safeRate (rows.cell value).1 (rows.cell value).2) =
      values.map fun value => (rows.cell value).1 / rows.denominator :=
    List.map_congr_left fun value _ => share_mul_rate h hpos value
  rw [hparts, sum_cells h hnodup hvalues (f := fun cell => cell.1 / rows.denominator)
    (zero_div _), safeRate, if_pos hpos, PeriodRows.numerator]
  simp only [div_eq_mul_inv]
  rw [List.sum_map_mul_right]

-- ---------------------------------------------------------------------------
-- The cohorts of two periods
-- ---------------------------------------------------------------------------

theorem mem_cohortValues : value ∈ cohortValues baselineRows currentRows ↔
    value ∈ baselineRows.map Prod.fst ∨ value ∈ currentRows.map Prod.fst := by
  rw [cohortValues, Sorted.mem_byKey, List.mem_dedup, List.mem_append]

theorem cohortValues_strict (baselineRows currentRows : PeriodRows) :
    Sorted.Strict id (cohortValues baselineRows currentRows) :=
  Sorted.byKey_strict (by rw [List.map_id]; exact List.nodup_dedup _)

theorem cohortValues_nodup (baselineRows currentRows : PeriodRows) :
    (cohortValues baselineRows currentRows).Nodup := by
  have hnodup := (cohortValues_strict baselineRows currentRows).nodup
  rwa [List.map_id] at hnodup

theorem cohortValues_comm (baselineRows currentRows : PeriodRows) :
    cohortValues currentRows baselineRows = cohortValues baselineRows currentRows :=
  (cohortValues_strict _ _).eq_of_mem_iff (cohortValues_strict _ _) fun value => by
    rw [mem_cohortValues, mem_cohortValues, or_comm]

-- ---------------------------------------------------------------------------
-- A pair of periods
-- ---------------------------------------------------------------------------

/-- Rows whose effects make up an overall change. -/
structure Exact (rows : List ContributionRow) (overall : Rat) : Prop where
  overallChange : ∀ row ∈ rows, row.overallChange = overall
  parts : ∀ row ∈ rows, row.totalContribution = row.rateEffect + row.mixEffect
  sum : (rows.map ContributionRow.totalContribution).sum = overall
  shares : tolerance < |overall| → ∃ shares : List Rat,
    rows.map ContributionRow.contributionShare = shares.map some ∧ shares.sum = 1
  noShares : |overall| ≤ tolerance → ∀ row ∈ rows, row.contributionShare = none

/-- Two rows of one cohort, with the periods exchanged. -/
structure Mirrored (row row' : ContributionRow) : Prop where
  cohortValue : row'.cohortValue = row.cohortValue
  rateEffect : row'.rateEffect = -row.rateEffect
  mixEffect : row'.mixEffect = -row.mixEffect
  totalContribution : row'.totalContribution = -row.totalContribution
  overallChange : row'.overallChange = -row.overallChange

theorem tolerance_pos : 0 < tolerance := by decide +kernel

/-- With the tolerances of the source, close to zero is within the absolute
one. -/
theorem isClose_zero : isClose overall 0 (1 / 10 ^ 9) tolerance ↔ |overall| ≤ tolerance := by
  rw [isClose, sub_zero, abs_zero, max_eq_left (abs_nonneg overall), le_max_iff]
  constructor
  · rintro (hle | hle)
    · have hzero : |overall| = 0 := by
        have hnonneg := abs_nonneg overall
        linarith
      rw [hzero]
      exact tolerance_pos.le
    · exact hle
  · exact .inr

section
variable {config : AnalyticsConfig} {analysis : ContributionSpec} {pair : PeriodPair}
variable {baselineRows currentRows : PeriodRows}

/-- What a cohort contributes is the change of its share times its rate. -/
theorem contributionRow_total (config : AnalyticsConfig) (analysis : ContributionSpec)
    (pair : PeriodPair) (baselineRows currentRows : PeriodRows) (value : String) :
    (contributionRow config analysis pair baselineRows currentRows value).totalContribution =
      safeRate (currentRows.cell value).2 currentRows.denominator *
          safeRate (currentRows.cell value).1 (currentRows.cell value).2 -
        safeRate (baselineRows.cell value).2 baselineRows.denominator *
          safeRate (baselineRows.cell value).1 (baselineRows.cell value).2 :=
  Kitagawa.rateEffect_add_mixEffect _ _ _ _

theorem pairRows_sum (config : AnalyticsConfig) (analysis : ContributionSpec) (pair : PeriodPair)
    (hb : baselineRows.Valid) (hc : currentRows.Valid)
    (hbaseline : 0 < baselineRows.denominator) (hcurrent : 0 < currentRows.denominator) :
    ((pairRows config analysis pair baselineRows currentRows).map
      ContributionRow.totalContribution).sum = overallChange baselineRows currentRows := by
  have hnodup := cohortValues_nodup baselineRows currentRows
  have hbvalues : ∀ entry ∈ baselineRows, entry.1 ∈ cohortValues baselineRows currentRows :=
    fun entry hentry => mem_cohortValues.mpr (.inl (List.mem_map_of_mem hentry))
  have hcvalues : ∀ entry ∈ currentRows, entry.1 ∈ cohortValues baselineRows currentRows :=
    fun entry hentry => mem_cohortValues.mpr (.inr (List.mem_map_of_mem hentry))
  rw [pairRows, List.map_map, overallChange, ← sum_share_mul_rate hb hbaseline hnodup hbvalues,
    ← sum_share_mul_rate hc hcurrent hnodup hcvalues, ← Kitagawa.sum_map_sub]
  exact congrArg List.sum (List.map_congr_left fun value _ =>
    contributionRow_total config analysis pair baselineRows currentRows value)

theorem pairRows_exact (hb : baselineRows.Valid) (hc : currentRows.Valid)
    (hbaseline : 0 < baselineRows.denominator) (hcurrent : 0 < currentRows.denominator) :
    Exact (pairRows config analysis pair baselineRows currentRows)
      (overallChange baselineRows currentRows) := by
  have hsum := pairRows_sum config analysis pair hb hc hbaseline hcurrent
  constructor
  case overallChange =>
    intro row hrow
    obtain ⟨value, -, rfl⟩ := List.mem_map.mp hrow
    rfl
  case parts =>
    intro row hrow
    obtain ⟨value, -, rfl⟩ := List.mem_map.mp hrow
    rfl
  case sum => exact hsum
  case shares =>
    intro hlarge
    have hne : overallChange baselineRows currentRows ≠ 0 :=
      abs_pos.mp (tolerance_pos.trans hlarge)
    refine ⟨(pairRows config analysis pair baselineRows currentRows).map fun row =>
      row.totalContribution / overallChange baselineRows currentRows, ?_, ?_⟩
    · rw [List.map_map]
      refine List.map_congr_left fun row hrow => ?_
      obtain ⟨value, -, rfl⟩ := List.mem_map.mp hrow
      exact if_neg (mt isClose_zero.mp hlarge.not_ge)
    · simp only [div_eq_mul_inv]
      rw [List.sum_map_mul_right, hsum, mul_inv_cancel₀ hne]
  case noShares =>
    intro hsmall row hrow
    obtain ⟨value, -, rfl⟩ := List.mem_map.mp hrow
    exact if_pos (isClose_zero.mpr hsmall)

theorem pairRows_mirrored :
    List.Forall₂ Mirrored (pairRows config analysis pair baselineRows currentRows)
      (pairRows config analysis pair' currentRows baselineRows) := by
  rw [pairRows, pairRows, cohortValues_comm, List.forall₂_map_left_iff, List.forall₂_map_right_iff,
    List.forall₂_same]
  intro value _
  constructor
  case cohortValue => rfl
  case rateEffect => exact Kitagawa.rateEffect_swap _ _ _ _
  case mixEffect => exact Kitagawa.mixEffect_swap _ _ _ _
  case totalContribution =>
    rw [contributionRow_total, contributionRow_total, neg_sub]
  case overallChange => exact (neg_sub _ _).symm

/-- The rows of a pair, when both periods have something below the line. -/
def exactRows (config : AnalyticsConfig) (analysis : ContributionSpec) (pair : PeriodPair)
    (baselineRows currentRows : PeriodRows) : List ContributionRow :=
  if 0 < baselineRows.denominator ∧ 0 < currentRows.denominator then
    pairRows config analysis pair baselineRows currentRows
  else []

theorem isClose_self (overall : Rat) : isClose overall overall (1 / 10 ^ 9) (1 / 10 ^ 12) := by
  rw [isClose, sub_self, abs_zero]
  exact le_max_of_le_right (by decide +kernel)

/-- The reconstruction never fails. -/
theorem decomposePair_eq (config : AnalyticsConfig) (analysis : ContributionSpec)
    (pair : PeriodPair) (hb : baselineRows.Valid) (hc : currentRows.Valid) :
    decomposePair config analysis pair baselineRows currentRows =
      .ok (exactRows config analysis pair baselineRows currentRows) := by
  rw [decomposePair, exactRows]
  by_cases hpos : 0 < baselineRows.denominator ∧ 0 < currentRows.denominator
  · have hnot : ¬ (baselineRows.denominator ≤ 0 ∨ currentRows.denominator ≤ 0) := by
      rw [not_or, not_le, not_le]
      exact hpos
    rw [if_pos hpos, if_neg hnot]
    dsimp only
    rw [pairRows_sum config analysis pair hb hc hpos.1 hpos.2,
      raiseIf_neg fun h => h.2 (isClose_self _)]
    rfl
  · have hnone : baselineRows.denominator ≤ 0 ∨ currentRows.denominator ≤ 0 := by
      rw [not_and_or, not_lt, not_lt] at hpos
      exact hpos
    rw [if_neg hpos, if_pos hnone]
    rfl

end

-- ---------------------------------------------------------------------------
-- An analysis
-- ---------------------------------------------------------------------------

/-- An observation with counts in it. -/
def Observation.Counted (row : Observation) : Prop :=
  0 ≤ row.denominator.getD 0 ∧ (row.denominator.getD 0 = 0 → row.numerator.getD 0 = 0)

theorem setItem_valid {rows : PeriodRows} (h : rows.Valid) (hnonneg : 0 ≤ cell.2)
    (hzero : cell.2 = 0 → cell.1 = 0) (value : String) : (setItem rows value cell).Valid := by
  rw [setItem]
  split
  case isTrue hmem =>
    have hkeys : (rows.map fun entry => if entry.1 = value then (value, cell) else entry).map
        Prod.fst = rows.map Prod.fst := by
      rw [List.map_map]
      refine List.map_congr_left fun entry _ => ?_
      rw [Function.comp_apply]
      split
      case isTrue heq => exact heq.symm
      case isFalse => rfl
    have hentry : ∀ entry ∈ rows.map fun entry => if entry.1 = value then (value, cell) else entry,
        entry = (value, cell) ∨ entry ∈ rows := by
      intro entry hentry
      obtain ⟨old, hold, rfl⟩ := List.mem_map.mp hentry
      split
      case isTrue => exact .inl rfl
      case isFalse => exact .inr hold
    refine ⟨hkeys ▸ h.nodup, fun entry he => ?_, fun entry he => ?_⟩
    · rcases hentry entry he with rfl | hold
      · exact hnonneg
      · exact h.nonneg entry hold
    · rcases hentry entry he with rfl | hold
      · exact hzero
      · exact h.zero entry hold
  case isFalse hnot =>
    refine ⟨?_, fun entry he => ?_, fun entry he => ?_⟩
    · rw [List.map_append, List.map_singleton, ← List.concat_eq_append]
      exact h.nodup.concat hnot
    · rcases List.mem_append.mp he with hold | hnew
      · exact h.nonneg entry hold
      · exact List.mem_singleton.mp hnew ▸ hnonneg
    · rcases List.mem_append.mp he with hold | hnew
      · exact h.zero entry hold
      · exact List.mem_singleton.mp hnew ▸ hzero

theorem periodRows_valid {frame : List Observation} (h : ∀ row ∈ frame, row.Counted)
    (dimension : Dimension) (period : Option Detection.Instant) :
    (periodRows frame dimension period).Valid := by
  rw [periodRows]
  have hselected : ∀ row ∈ frame.filter fun row =>
      row.periodStart.isSome ∧ row.periodStart = period, row.Counted :=
    fun row hrow => h row (List.mem_filter.mp hrow).1
  generalize frame.filter _ = selected at hselected
  have hempty : PeriodRows.Valid [] := ⟨List.nodup_nil, nofun, nofun⟩
  generalize hrows : ([] : PeriodRows) = rows at hempty
  clear hrows
  induction selected generalizing rows with
  | nil => exact hempty
  | cons row selected ih =>
    obtain ⟨hrow, hrest⟩ := List.forall_mem_cons.mp hselected
    rw [List.foldl_cons]
    refine ih hrest _ ?_
    split
    · exact hempty
    · exact setItem_valid hempty hrow.1 hrow.2 _

/-- The analysis is the exact rows of the adjacent periods, unless no cohort has
its dimension. -/
theorem decomposeAnalysis_eq (config : AnalyticsConfig) (analysis : ContributionSpec)
    {observations : List Observation} (h : ∀ row ∈ observations, row.Counted) :
    decomposeAnalysis observations config analysis =
      (cohortOf config analysis).map fun cohort =>
        let frame := analysisFrame observations analysis cohort
        (pairsOf frame).flatMap fun pair =>
          exactRows config analysis pair (periodRows frame analysis.dimension pair.baselinePeriod)
            (periodRows frame analysis.dimension pair.currentPeriod) := by
  rw [decomposeAnalysis]
  cases cohortOf config analysis with
  | error e => rfl
  | ok cohort =>
    have hframe : ∀ row ∈ analysisFrame observations analysis cohort, row.Counted :=
      fun row hrow => h row (List.mem_filter.mp hrow).1
    have hpairs := fun pair (_ : pair ∈ pairsOf (analysisFrame observations analysis cohort)) =>
      decomposePair_eq config analysis pair
        (periodRows_valid hframe analysis.dimension pair.baselinePeriod)
        (periodRows_valid hframe analysis.dimension pair.currentPeriod)
    rw [Checks.ok_bind]
    dsimp only
    rw [Checks.mapM_eq_map hpairs]
    rfl

/-- The contributions of every pair of periods are exact, exchanging the periods
mirrors them, and an analysis of counts never fails to reconstruct the change.
Shares are given where the change is more than the tolerance. -/
theorem contribution_exact (config : AnalyticsConfig) (analysis : ContributionSpec) :
    (∀ (pair : PeriodPair) (baselineRows currentRows : PeriodRows), baselineRows.Valid →
      currentRows.Valid → 0 < baselineRows.denominator → 0 < currentRows.denominator →
      Exact (pairRows config analysis pair baselineRows currentRows)
          (overallChange baselineRows currentRows) ∧
        ∀ pair', List.Forall₂ Mirrored (pairRows config analysis pair baselineRows currentRows)
          (pairRows config analysis pair' currentRows baselineRows)) ∧
    ∀ observations : List Observation, (∀ row ∈ observations, row.Counted) →
      decomposeAnalysis observations config analysis =
        (cohortOf config analysis).map fun cohort =>
          let frame := analysisFrame observations analysis cohort
          (pairsOf frame).flatMap fun pair =>
            exactRows config analysis pair (periodRows frame analysis.dimension pair.baselinePeriod)
              (periodRows frame analysis.dimension pair.currentPeriod) :=
  ⟨fun _ _ _ hb hc hbaseline hcurrent =>
    ⟨pairRows_exact hb hc hbaseline hcurrent, fun _ => pairRows_mirrored⟩,
    fun _ h => decomposeAnalysis_eq config analysis h⟩

namespace Sample

def config : AnalyticsConfig where
  timeGrains := [.day]
  minimumDenominator := 25
  metricNames := ["checkout_conversion_rate"]
  cohorts := [⟨"overall", [], by decide, by decide⟩, ⟨"by-region", [.region], by decide, by decide⟩]
  contributions := []
  minimumDenominator_ge := by decide
  timeGrains_nodup := by decide
  metricNames_nodup := by decide
  cohortNames_nodup := by decide
  overall := by decide

def analysis : ContributionSpec := ⟨"conversion", "checkout_conversion_rate", .region, .day⟩

def pair : PeriodPair := ⟨some 0, some 86400000000, some 86400000000, some 172800000000⟩

/-- One region at two periods, with a change that is not zero and yet within the
tolerance: the share is left out. -/
theorem small_change_has_no_share : ∃ baselineRows currentRows : PeriodRows,
    baselineRows.Valid ∧ currentRows.Valid ∧
    0 < baselineRows.denominator ∧ 0 < currentRows.denominator ∧
    overallChange baselineRows currentRows ≠ 0 ∧
    ¬ ∃ shares : List Rat, (pairRows config analysis pair baselineRows currentRows).map
      ContributionRow.contributionShare = shares.map some ∧ shares.sum = 1 := by
  refine ⟨[("north", 0, 1)], [("north", 1, 10 ^ 16)], ⟨by decide, by decide +kernel, by decide +kernel⟩,
    ⟨by decide, by decide +kernel, by decide +kernel⟩, by decide +kernel, by decide +kernel,
    by decide +kernel, ?_⟩
  rintro ⟨shares, hshares, -⟩
  have hnone : none ∈ (pairRows config analysis pair [("north", 0, 1)]
      [("north", 1, 10 ^ 16)]).map ContributionRow.contributionShare := by decide +kernel
  rw [hshares] at hnone
  obtain ⟨share, -, hshare⟩ := List.mem_map.mp hnone
  exact absurd hshare nofun

/-- Two regions whose conversion and weights both change. -/
theorem contribution_exact_sample :
    ((pairRows config analysis pair [("north", 1, 2), ("south", 1, 4)]
      [("north", 3, 4), ("east", 1, 1)]).map ContributionRow.totalContribution).sum = 4 / 5 - 1 / 3 := by
  have hexact := (contribution_exact config analysis).1 pair [("north", 1, 2), ("south", 1, 4)]
    [("north", 3, 4), ("east", 1, 1)] ⟨by decide, by decide +kernel, by decide +kernel⟩
    ⟨by decide, by decide +kernel, by decide +kernel⟩ (by decide +kernel) (by decide +kernel)
  rw [hexact.1.sum]
  decide +kernel

end Sample

end Paic.Analytics
