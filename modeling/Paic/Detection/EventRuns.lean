import Paic.Detection.Events
import Paic.Platform

/-!
# Events partition the anomalies

In a table with one row for each series and period, whose rows end one grain
after they start, every anomaly lies in one event. The events of a series are
the maximal runs of its anomalies.
-/

namespace Paic.Detection

open Partition (parts part)
open Sorted (byKey Strict)
open Runs (Intervals Maximal)

/-- One row for a series and a period, of the series' grain. -/
structure Regular (rows : List Observation) : Prop where
  unique : (rows.map fun o => (o.seriesId, o.periodStart)).Nodup
  period : ∀ o ∈ rows, o.periodEnd = o.periodStart + periodDelta o.timeGrain
  grain : ∀ o ∈ rows, ∀ o' ∈ rows, o.seriesId = o'.seriesId → o.timeGrain = o'.timeGrain

/-- The row is of the event's series and starts within it. -/
def AnomalyEvent.Covers (e : AnomalyEvent) (o : Observation) : Prop :=
  o.seriesId = e.seriesId ∧ e.startedAt ≤ o.periodStart ∧ o.periodStart < e.endedAt

instance (e : AnomalyEvent) (o : Observation) : Decidable (e.Covers o) :=
  inferInstanceAs (Decidable (_ ∧ _ ∧ _))

/-- The anomalies of an event, in the order of their periods. -/
def membersOf (rows : List Observation) (e : AnomalyEvent) : List Observation :=
  byKey (·.periodStart) (rows.filter fun o => o.isAnomaly = true ∧ e.Covers o)

/-- The events are a partition of the anomalies into maximal runs. -/
structure Partitioned (rows : List Observation) (events : List AnomalyEvent) : Prop where
  covered : ∀ o ∈ rows, o.isAnomaly = true → ∃! e, e ∈ events ∧ e.Covers o
  counts : (events.map (·.observationCount)).sum = (rows.filter (·.isAnomaly)).length
  count : ∀ e ∈ events, e.observationCount = (membersOf rows e).length ∧ 0 < e.observationCount
  first : ∀ e ∈ events, ∃ o ∈ (membersOf rows e).head?, e.startedAt = o.periodStart ∧
    e.firstDetectedAt = o.periodEnd
  last : ∀ e ∈ events, ∃ o ∈ (membersOf rows e).getLast?, e.endedAt = o.periodEnd
  chain : ∀ e ∈ events, (membersOf rows e).IsChain fun o o' => o'.periodStart ≤ o.periodEnd
  maximal : ∀ e ∈ events, ∀ o ∈ rows, o.isAnomaly = true → o.seriesId = e.seriesId →
    o.periodStart ≤ e.endedAt → e.startedAt ≤ o.periodEnd → e.Covers o
  ordered : events.Pairwise fun e e' => e.seriesId = e'.seriesId → e.endedAt < e'.startedAt
  keys : (events.map fun e => (e.seriesId, e.startedAt)).Nodup
  times : ∀ e ∈ events, e.startedAt < e.endedAt
  peak : ∀ e ∈ events, e.startedAt ≤ e.peakAt ∧ e.peakAt < e.endedAt ∧
    ∃ o ∈ membersOf rows e, o.periodStart = e.peakAt ∧ o.evidenceScore = e.maxEvidenceScore
  detected : ∀ e ∈ events, e.startedAt < e.firstDetectedAt ∧ e.firstDetectedAt ≤ e.endedAt
  score : ∀ e ∈ events,
    IsGreatest {score | ∃ o ∈ membersOf rows e, o.evidenceScore = score} e.maxEvidenceScore
  severity : ∀ e ∈ events,
    IsGreatest {rank | ∃ o ∈ membersOf rows e, o.severity.rank = rank} e.severity.rank

theorem periodDelta_pos (grain : TimeGrain) : 0 < periodDelta grain := by
  cases grain <;> decide

-- ---------------------------------------------------------------------------
-- The anomalies of a series
-- ---------------------------------------------------------------------------

section
variable {rows : List Observation}

theorem mem_anomaliesOf : o ∈ anomaliesOf rows ↔ o ∈ rows ∧ o.isAnomaly = true := by
  rw [anomaliesOf, Sorted.mem_byKey, List.mem_filter]

/-- The groups are the maximal runs of the series that have anomalies. -/
theorem mem_allGroups {group : List Observation} : group ∈ allGroups rows ↔
    ∃ o ∈ anomaliesOf rows, ∃ front back,
      part (·.seriesId) (anomaliesOf rows) o.seriesId = front ++ group ++ back ∧
        Maximal adjoins front group back := by
  simp only [allGroups, List.mem_flatMap, Partition.mem_parts, groupsOf, Runs.mem_runs_iff]
  constructor
  · rintro ⟨-, ⟨o, ho, rfl⟩, h⟩
    exact ⟨o, ho, h⟩
  · rintro ⟨o, ho, h⟩
    exact ⟨_, ⟨o, ho, rfl⟩, h⟩

theorem Maximal.series_eq {group : List Observation}
    (h : part (·.seriesId) (anomaliesOf rows) s = front ++ group ++ back) (ho : o ∈ group) :
    o ∈ rows ∧ o.isAnomaly = true ∧ o.seriesId = s := by
  have hmem : o ∈ part (·.seriesId) (anomaliesOf rows) s := by
    rw [h]
    exact List.mem_append_left _ (List.mem_append_right _ ho)
  obtain ⟨hmem, hs⟩ := Partition.mem_part.mp hmem
  obtain ⟨hrow, hanomaly⟩ := mem_anomaliesOf.mp hmem
  exact ⟨hrow, hanomaly, hs⟩

theorem flatten_allGroups (rows : List Observation) :
    (allGroups rows).flatten.Perm (rows.filter (·.isAnomaly)) := by
  have hflat : (allGroups rows).flatten = (parts (·.seriesId) (anomaliesOf rows)).flatten := by
    rw [allGroups, List.flatMap_def, List.flatten_flatten, List.map_map]
    congr 1
    refine List.map_id'' (fun p => ?_) _
    exact Runs.flatten_runs p
  rw [hflat]
  exact (Partition.flatten_parts_perm _ _).trans (Sorted.byKey_perm _ _)

variable (hrows : Regular rows)
include hrows

theorem Regular.anomalies_strict :
    Strict (fun o => toLex (o.seriesId, o.periodStart)) (anomaliesOf rows) := by
  refine Sorted.byKey_strict ?_
  have hnodup := hrows.unique.sublist ((List.filter_sublist (p := (·.isAnomaly))).map _)
  have hmap := hnodup.map (f := toLex) fun a b h => toLex_inj.mp h
  rwa [List.map_map] at hmap

/-- The anomalies of a series are intervals in order. -/
theorem Regular.intervals (s : String) :
    Intervals (·.periodStart) (·.periodEnd) (part (·.seriesId) (anomaliesOf rows) s) := by
  have hstrict := hrows.anomalies_strict.filter fun o => decide (o.seriesId = s)
  have hstarts : Strict (·.periodStart) (part (·.seriesId) (anomaliesOf rows) s) := by
    refine List.Pairwise.imp_of_mem (fun {a b} ha hb hlt => ?_) hstrict
    have ha : a.seriesId = s := (Partition.mem_part.mp ha).2
    have hb : b.seriesId = s := (Partition.mem_part.mp hb).2
    rcases Prod.Lex.toLex_lt_toLex.mp hlt with h | ⟨-, h⟩
    · exact absurd (ha.trans hb.symm) (ne_of_lt h)
    · exact h
  constructor
  case starts => exact hstarts
  case stops =>
    refine List.Pairwise.imp_of_mem (fun {a b} ha hb hlt => ?_) hstarts
    obtain ⟨ha, has⟩ := Partition.mem_part.mp ha
    obtain ⟨hb, hbs⟩ := Partition.mem_part.mp hb
    have ha := (mem_anomaliesOf.mp ha).1
    have hb := (mem_anomaliesOf.mp hb).1
    have hgrain := hrows.grain a ha b hb (has.trans hbs.symm)
    have hlt : a.periodStart < b.periodStart := hlt
    change a.periodEnd < b.periodEnd
    rw [hrows.period a ha, hrows.period b hb, hgrain]
    exact Int.add_lt_add_right hlt _
  case proper =>
    intro o ho
    have ho := (mem_anomaliesOf.mp (Partition.mem_part.mp ho).1).1
    change o.periodStart < o.periodEnd
    rw [hrows.period o ho]
    exact Int.lt_add_of_pos_right _ (periodDelta_pos _)

/-- The groups of a series end before the next ones start. -/
theorem Regular.groups_pairwise : (allGroups rows).Pairwise fun r r' =>
    ∀ a ∈ r.getLast?, ∀ b ∈ r', a.seriesId = b.seriesId → a.periodEnd < b.periodStart := by
  rw [allGroups, List.pairwise_flatMap]
  constructor
  · intro p hp
    obtain ⟨o, -, rfl⟩ := Partition.mem_parts.mp hp
    refine (Runs.runs_pairwise (hrows.intervals o.seriesId)).imp fun h a ha b hb _ => ?_
    exact h a ha b hb
  · rw [parts, List.pairwise_map]
    refine List.Pairwise.imp_of_mem (fun {s s'} _ _ hne => ?_) (Partition.distinct_nodup _)
    intro r hr r' hr' a ha b hb heq
    have hflat : ∀ {s r a}, r ∈ groupsOf (part (·.seriesId) (anomaliesOf rows) s) → a ∈ r →
        a.seriesId = s := by
      intro s r a hr ha
      have hmem : a ∈ (groupsOf (part (·.seriesId) (anomaliesOf rows) s)).flatten :=
        List.mem_flatten_of_mem hr ha
      rw [groupsOf, Runs.flatten_runs] at hmem
      exact (Partition.mem_part.mp hmem).2
    have ha : a.seriesId = s := hflat hr (List.mem_of_getLast? ha)
    exact absurd (ha.symm.trans (heq.trans (hflat hr' hb))) hne

end

-- ---------------------------------------------------------------------------
-- The events
-- ---------------------------------------------------------------------------

section
variable [Hashing] [PeriodText] {rows : List Observation}

theorem buildEvents_ok (h : buildEvents rows = .ok (events, changes)) :
    ∃ eventRows, (allGroups rows).mapM eventOf = .ok eventRows ∧
      events = byKey (·.startedAt) eventRows := by
  simp only [buildEvents, Checks.bind_eq_ok, Checks.pure_eq_ok, Prod.mk.injEq] at h
  obtain ⟨eventRows, hrows, rfl, -⟩ := h
  exact ⟨eventRows, hrows, rfl⟩

/-- A group with its event: the members are the anomalies the event covers. -/
structure Grouped (rows : List Observation) (group : List Observation) (e : AnomalyEvent) :
    Prop where
  facts : EventFacts group e
  nonempty : group ≠ []
  started : e.startedAt = (group.head nonempty).periodStart
  ended : e.endedAt = (group.getLast nonempty).periodEnd
  chain : group.IsChain fun o o' => o'.periodStart ≤ o.periodEnd
  mem_iff : ∀ o, o ∈ group ↔ o ∈ rows ∧ o.isAnomaly = true ∧ e.Covers o
  maximal : ∀ o ∈ rows, o.isAnomaly = true → o.seriesId = e.seriesId →
    o.periodStart ≤ e.endedAt → e.startedAt ≤ o.periodEnd → o ∈ group
  proper : ∀ o ∈ group, o.periodStart < o.periodEnd ∧ o.periodEnd ≤ e.endedAt
  members : membersOf rows e = group

theorem Regular.grouped (hrows : Regular rows) {group : List Observation}
    (hgroup : group ∈ allGroups rows) (he : eventOf group = .ok e) : Grouped rows group e := by
  obtain ⟨o, ho, front, back, hsplit, hmax⟩ := mem_allGroups.mp hgroup
  have hfacts := eventOf_facts he
  have hintervals := hrows.intervals o.seriesId
  have hmem : ∀ x, x ∈ part (·.seriesId) (anomaliesOf rows) o.seriesId ↔
      x ∈ rows ∧ x.isAnomaly = true ∧ x.seriesId = o.seriesId := by
    intro x
    rw [Partition.mem_part, mem_anomaliesOf, and_assoc]
  rw [hsplit] at hintervals hmem
  have hin : ∀ x ∈ group, x ∈ front ++ group ++ back := fun x hx =>
    List.mem_append_left _ (List.mem_append_right _ hx)
  have hhead := List.head?_eq_some_head hmax.nonempty
  have hlast := List.getLast?_eq_some_getLast hmax.nonempty
  have hseries : e.seriesId = o.seriesId := by
    rw [hfacts.series _ hhead]
    exact ((hmem _).mp (hin _ (List.head_mem _))).2.2
  have hstarted := hfacts.started _ hhead
  have hended := hfacts.ended _ hlast
  have hiff : ∀ x, x ∈ group ↔ x ∈ rows ∧ x.isAnomaly = true ∧ e.Covers x := by
    intro x
    constructor
    · intro hx
      obtain ⟨hrow, hanomaly, hs⟩ := (hmem x).mp (hin x hx)
      have hbetween := (hmax.mem_iff hintervals (hin x hx)).mp hx
      refine ⟨hrow, hanomaly, hs.trans hseries.symm, ?_, ?_⟩
      · rw [hstarted]
        exact hbetween.1
      · rw [hended]
        exact hbetween.2
    · rintro ⟨hrow, hanomaly, hs, hstart, hstop⟩
      have hx := (hmem x).mpr ⟨hrow, hanomaly, hs.trans hseries⟩
      rw [hstarted] at hstart
      rw [hended] at hstop
      exact (hmax.mem_iff hintervals hx).mpr ⟨hstart, hstop⟩
  constructor
  case facts => exact hfacts
  case nonempty => exact hmax.nonempty
  case started => exact hstarted
  case ended => exact hended
  case chain => exact hmax.chain.imp fun _ _ h => of_decide_eq_true h
  case mem_iff => exact hiff
  case maximal =>
    intro x hrow hanomaly hs hstart hstop
    have hx := (hmem x).mpr ⟨hrow, hanomaly, hs.trans hseries⟩
    rw [hended] at hstart
    rw [hstarted] at hstop
    exact hmax.mem_of_touches hintervals hx hstart hstop
  case proper =>
    intro x hx
    rw [hended]
    exact ⟨hintervals.proper x (hin x hx), (hmax.intervals hintervals hx).2⟩
  case members =>
    have hnodup : ((rows.filter fun o => o.isAnomaly = true ∧ e.Covers o).map
        (·.periodStart)).Nodup := by
      have h := hrows.unique.sublist ((List.filter_sublist
        (p := fun o => decide (o.isAnomaly = true ∧ e.Covers o))).map _)
      rw [List.Nodup, List.pairwise_map] at h ⊢
      refine h.imp_of_mem fun {a b} ha hb hne heq => hne (Prod.ext ?_ heq)
      rw [List.mem_filter, decide_eq_true_eq] at ha hb
      exact ha.2.2.1.trans hb.2.2.1.symm
    refine (Sorted.byKey_strict hnodup).eq_of_mem_iff
      hintervals.append_left.append_right.starts fun x => ?_
    rw [Sorted.mem_byKey, List.mem_filter, decide_eq_true_eq, hiff]

/-- Every event is that of a group. -/
theorem Regular.event_grouped (hrows : Regular rows)
    (heventRows : (allGroups rows).mapM eventOf = .ok eventRows) (he : e ∈ eventRows) :
    ∃ group ∈ allGroups rows, Grouped rows group e := by
  obtain ⟨group, hgroup, he⟩ := (Checks.mapM_mem heventRows).mp he
  exact ⟨group, hgroup, hrows.grouped hgroup he⟩

omit [Hashing] [PeriodText] in
theorem Grouped.started_lt {group : List Observation} (h : Grouped rows group e) :
    e.startedAt < e.endedAt := by
  obtain ⟨hproper, hle⟩ := h.proper _ (List.head_mem h.nonempty)
  rw [← h.started] at hproper
  exact lt_of_lt_of_le hproper hle

/-- Two events of a series do not meet. -/
theorem Regular.events_apart (hrows : Regular rows)
    (heventRows : (allGroups rows).mapM eventOf = .ok eventRows) :
    eventRows.Pairwise fun e e' => e.seriesId = e'.seriesId →
      e.endedAt < e'.startedAt ∨ e'.endedAt < e.startedAt := by
  refine Checks.mapM_pairwise heventRows hrows.groups_pairwise ?_
  intro r hr e he r' hr' e' he' hapart hseries
  have h := hrows.grouped hr he
  have h' := hrows.grouped hr' he'
  rw [h.ended, h'.started]
  have hlast := List.getLast?_eq_some_getLast h.nonempty
  refine .inl (hapart _ hlast _ (List.head_mem h'.nonempty) ?_)
  have hs : (r.getLast h.nonempty).seriesId = e.seriesId :=
    ((h.mem_iff _).mp (List.getLast_mem _)).2.2.1
  rw [hs, hseries, h'.facts.series _ (List.head?_eq_some_head h'.nonempty)]

/-- Sorted by their start, the events of a series follow one another. -/
theorem Regular.events_ordered (hrows : Regular rows)
    (heventRows : (allGroups rows).mapM eventOf = .ok eventRows) :
    (byKey (·.startedAt) eventRows).Pairwise fun e e' =>
      e.seriesId = e'.seriesId → e.endedAt < e'.startedAt := by
  have hperm := Sorted.byKey_perm (fun e : AnomalyEvent => e.startedAt) eventRows
  have hapart := (hperm.pairwise_iff fun h heq => (h heq.symm).symm).mpr
    (hrows.events_apart heventRows)
  have hsorted := Sorted.byKey_sorted (fun e : AnomalyEvent => e.startedAt) eventRows
  refine (hapart.and hsorted).imp_of_mem fun {e e'} _ he' h hseries => ?_
  obtain ⟨group, -, hgroup⟩ := hrows.event_grouped heventRows (hperm.mem_iff.mp he')
  rcases h.1 hseries with hlt | hlt
  · exact hlt
  · exact absurd (lt_trans hgroup.started_lt hlt) (not_lt.mpr h.2)

/-- `_build_events` on a regular table. -/
theorem build_events_partition (hrows : Regular rows)
    (h : buildEvents rows = .ok (events, changes)) : Partitioned rows events := by
  obtain ⟨eventRows, heventRows, rfl⟩ := buildEvents_ok h
  have hperm := Sorted.byKey_perm (fun e : AnomalyEvent => e.startedAt) eventRows
  have hgrouped : ∀ e ∈ byKey (·.startedAt) eventRows,
      ∃ group ∈ allGroups rows, Grouped rows group e :=
    fun e he => hrows.event_grouped heventRows (hperm.mem_iff.mp he)
  have hordered := hrows.events_ordered heventRows
  have hends : ∀ e ∈ byKey (·.startedAt) eventRows, e.startedAt < e.endedAt := by
    intro e he
    obtain ⟨group, -, hgroup⟩ := hgrouped e he
    exact hgroup.started_lt
  constructor
  case covered =>
    intro o ho hanomaly
    let := Std.Symm.mk (r := fun e e' : AnomalyEvent => e.seriesId = e'.seriesId →
      e.endedAt < e'.startedAt ∨ e'.endedAt < e.startedAt) fun _ _ h heq => (h heq.symm).symm
    have hflat : o ∈ (allGroups rows).flatten := by
      rw [(flatten_allGroups rows).mem_iff, List.mem_filter]
      exact ⟨ho, hanomaly⟩
    obtain ⟨group, hgroup, hmem⟩ := List.mem_flatten.mp hflat
    obtain ⟨e, he⟩ := Checks.mapM_returns.mp ⟨_, heventRows⟩ group hgroup
    have hcovers := (((hrows.grouped hgroup he).mem_iff o).mp hmem).2.2
    have hmem : e ∈ byKey (·.startedAt) eventRows :=
      hperm.mem_iff.mpr ((Checks.mapM_mem heventRows).mpr ⟨group, hgroup, he⟩)
    refine ⟨e, ⟨hmem, hcovers⟩, fun e' ⟨hmem', hcovers'⟩ => ?_⟩
    by_contra hne
    -- two events that hold one row would meet
    rcases hrows.events_apart heventRows |>.forall (hperm.mem_iff.mp hmem')
      (hperm.mem_iff.mp hmem) hne (hcovers'.1.symm.trans hcovers.1) with hlt | hlt
    · exact absurd (lt_trans hcovers'.2.2 (lt_of_lt_of_le hlt hcovers.2.1)) (lt_irrefl _)
    · exact absurd (lt_trans hcovers.2.2 (lt_of_lt_of_le hlt hcovers'.2.1)) (lt_irrefl _)
  case counts =>
    have hcounts : eventRows.map (·.observationCount) = (allGroups rows).map List.length :=
      Checks.mapM_map heventRows fun group e he => (eventOf_facts he).count
    rw [(hperm.map _).sum_eq, hcounts, ← List.length_flatten, (flatten_allGroups rows).length_eq]
  case count =>
    intro e he
    obtain ⟨group, -, hgroup⟩ := hgrouped e he
    rw [hgroup.members, hgroup.facts.count]
    exact ⟨rfl, List.length_pos_of_ne_nil hgroup.nonempty⟩
  case first =>
    intro e he
    obtain ⟨group, -, hgroup⟩ := hgrouped e he
    rw [hgroup.members]
    have hhead := List.head?_eq_some_head hgroup.nonempty
    exact ⟨_, hhead, hgroup.started, hgroup.facts.detected _ hhead⟩
  case last =>
    intro e he
    obtain ⟨group, -, hgroup⟩ := hgrouped e he
    rw [hgroup.members]
    exact ⟨_, List.getLast?_eq_some_getLast hgroup.nonempty, hgroup.ended⟩
  case chain =>
    intro e he
    obtain ⟨group, -, hgroup⟩ := hgrouped e he
    rw [hgroup.members]
    exact hgroup.chain
  case maximal =>
    intro e he o ho hanomaly hseries hstart hstop
    obtain ⟨group, -, hgroup⟩ := hgrouped e he
    exact ((hgroup.mem_iff o).mp (hgroup.maximal o ho hanomaly hseries hstart hstop)).2.2
  case ordered => exact hordered
  case keys =>
    rw [List.Nodup, List.pairwise_map]
    refine hordered.imp_of_mem fun {e e'} he _ h heq => ?_
    have hlt := h (congrArg Prod.fst heq)
    have hstarted : e.startedAt = e'.startedAt := congrArg Prod.snd heq
    rw [← hstarted] at hlt
    exact absurd hlt (not_lt.mpr (le_of_lt (hends e he)))
  case times => exact hends
  case peak =>
    intro e he
    obtain ⟨group, -, hgroup⟩ := hgrouped e he
    rw [hgroup.members]
    obtain ⟨o, ho, hpeak, hscore⟩ := hgroup.facts.peak
    obtain ⟨-, hstart, hstop⟩ := ((hgroup.mem_iff o).mp ho).2.2
    rw [hpeak] at hstart hstop
    exact ⟨hstart, hstop, o, ho, hpeak, hscore⟩
  case detected =>
    intro e he
    obtain ⟨group, -, hgroup⟩ := hgrouped e he
    obtain ⟨hproper, hle⟩ := hgroup.proper _ (List.head_mem hgroup.nonempty)
    rw [hgroup.started, hgroup.facts.detected _ (List.head?_eq_some_head hgroup.nonempty)]
    exact ⟨hproper, hle⟩
  case score =>
    intro e he
    obtain ⟨group, -, hgroup⟩ := hgrouped e he
    rw [hgroup.members]
    exact hgroup.facts.score
  case severity =>
    intro e he
    obtain ⟨group, -, hgroup⟩ := hgrouped e he
    rw [hgroup.members]
    exact hgroup.facts.severity

end

-- ---------------------------------------------------------------------------
-- Two series with a gap
-- ---------------------------------------------------------------------------

namespace Sample

/-- An anomaly of one hour. -/
def anomaly (seriesId : String) (hour : Int) (score : Rat) (severity : Severity) : Observation where
  observationId := seriesId
  seriesId := seriesId
  metricName := "completed_orders"
  displayName := "Completed orders"
  domain := "orders"
  metricType := "count"
  unit := "orders"
  higherIsBetter := some true
  timeGrain := .hour
  periodStart := hour * periodDelta .hour
  periodEnd := hour * periodDelta .hour + periodDelta .hour
  cohortName := "global"
  dimensionCount := 0
  dimensions := []
  observedValue := some 1
  expectedValue := some 4
  expectedLower := some 3
  expectedUpper := some 5
  numerator := none
  denominator := none
  sampleSize := 1
  baselinePoints := 4
  seasonalPoints := 0
  baselineMethod := "rolling-median-mad"
  baselineLastPeriod := some 0
  robustScale := some 1
  residual := some (-3)
  absoluteChange := some 3
  relativeChange := some (-3 / 4)
  robustZ := some (-3)
  distributionName := "poisson"
  pValue := some 0
  qValue := some 0
  cusumScore := 0
  changeDetected := false
  estimatedChangeStart := none
  sequentialLogLikelihood := 0
  sequentialAlert := false
  supportRobustDeviation := true
  supportFdrSignificance := true
  supportCusum := false
  supportSequential := false
  detectorSupportCount := 2
  sampleSizeGatePassed := true
  effectSizeGatePassed := true
  historyGatePassed := true
  alertReasonCodes := []
  isEligible := true
  isAnomaly := true
  direction := .decrease
  impactDirection := .degradation
  severity := severity
  evidenceScore := score
  sourceQualityStatus := "ok"
  scenarioId := none

/-- Two neighbouring hours and a later one of one series, one hour of another. -/
def anomalies : List Observation :=
  [anomaly "eu" 5 (1 / 2) .medium, anomaly "us" 5 (1 / 4) .low, anomaly "eu" 6 (3 / 4) .high,
    anomaly "eu" 9 (1 / 2) .medium]

@[reducible] def periodText : PeriodText where
  isoformat t := Platform.hexText t.toNat
  str t := Platform.hexText t.toNat

theorem anomalies_regular : Regular anomalies := by
  constructor
  case unique => decide
  case period => decide
  case grain => decide

end Sample

attribute [local instance] Sample.periodText

theorem build_events_sample : ∃ events changes,
    buildEvents Sample.anomalies = .ok (events, changes) ∧
      Partitioned Sample.anomalies events := by
  have hgroups : ∀ group ∈ allGroups Sample.anomalies, (∃ o ∈ group, o.qValue.isSome) ∧
      (∀ o ∈ group, o.robustZ.isSome) ∧ ∃ o ∈ group, o.relativeChange.isSome := by
    decide +kernel
  obtain ⟨⟨events, changes⟩, h⟩ := buildEvents_returns.mpr hgroups
  exact ⟨events, changes, h, build_events_partition Sample.anomalies_regular h⟩

example : ((allGroups Sample.anomalies).map fun group => group.map (·.periodStart)) =
    [[18000000000, 21600000000], [32400000000], [18000000000]] := by decide +kernel

end Paic.Detection
