import Paic.Detection.Benchmark
import Paic.Detection.EventGate
import Paic.Lib.Entries

/-!
# No look-ahead

What the detector says about a period depends on the rows up to it. Before the
false discovery rate is adjusted it depends on the rows of the period's own
series; the adjustment takes in the other series of the same period.
-/

namespace Paic.Detection

open Checks (bind_eq_ok pure_eq_ok ok_bind)
open Partition (part parts)
open Sorted (byKey Strict)

/-- The elements of periods up to a moment. -/
def upTo (period : α → Instant) (t : Instant) (l : List α) : List α :=
  l.filter fun a => period a ≤ t

/-- One row for a series and a period. -/
def OneRowEach (metrics : List MetricRow) : Prop :=
  (metrics.map fun r => (r.seriesId, r.periodStart)).Nodup

section
variable {p : α → Instant} {l : List α}

theorem mem_upTo : a ∈ upTo p t l ↔ a ∈ l ∧ p a ≤ t := by
  rw [upTo, List.mem_filter, decide_eq_true_eq]

theorem upTo_cons_of_le (h : p a ≤ t) : upTo p t (a :: l) = a :: upTo p t l :=
  List.filter_cons_of_pos (decide_eq_true h)

theorem upTo_eq_nil (h : ∀ a ∈ l, ¬ p a ≤ t) : upTo p t l = [] :=
  List.filter_eq_nil_iff.mpr fun a ha hle => h a ha (of_decide_eq_true hle)

theorem upTo_nodup {f : α → β} (h : (l.map f).Nodup) : ((upTo p t l).map f).Nodup :=
  h.sublist (List.filter_sublist.map _)

end

-- ---------------------------------------------------------------------------
-- One series
-- ---------------------------------------------------------------------------

section
variable [DetectionMath] [Hashing] [PeriodText] {config : DetectionConfig} {setup : SeriesSetup}

theorem scoreRow_period {s : Scored} (h : scoreRow config setup state source = .ok (next, s)) :
    s.row.periodStart = source.periodStart := by
  simp only [scoreRow, bind_eq_ok, pure_eq_ok, Prod.mk.injEq] at h
  obtain ⟨deviation, -, detected, -, -, rfl⟩ := h
  rfl

/-- The loop over the rows of a series, stopped at a moment. -/
theorem scoreRows_upTo {rows : List MetricRow} {output : List Scored}
    (hrows : Strict MetricRow.periodStart rows)
    (h : scoreRows config setup state rows = .ok output) :
    scoreRows config setup state (upTo MetricRow.periodStart t rows) =
      .ok (upTo (·.row.periodStart) t output) := by
  induction rows generalizing state output with
  | nil =>
    obtain rfl : [] = output := pure_eq_ok.mp h
    rfl
  | cons source rest ih =>
    obtain ⟨hlater, hrest⟩ := List.pairwise_cons.mp hrows
    obtain ⟨⟨next, s⟩, hstep, h⟩ := bind_eq_ok.mp h
    obtain ⟨output', hrun, hpure⟩ := bind_eq_ok.mp h
    obtain rfl : s :: output' = output := pure_eq_ok.mp hpure
    have hperiod := scoreRow_period hstep
    by_cases hle : source.periodStart ≤ t
    · have hsle : s.row.periodStart ≤ t := hperiod ▸ hle
      rw [upTo_cons_of_le hle, upTo_cons_of_le (p := fun s : Scored => s.row.periodStart) hsle,
        scoreRows, hstep, ok_bind]
      exact bind_eq_ok.mpr ⟨_, ih hrest hrun, rfl⟩
    · -- the rows behind are later still
      have hrows : ∀ r ∈ source :: rest, ¬ r.periodStart ≤ t := by
        intro r hr hrt
        rcases List.mem_cons.mp hr with rfl | hr
        · exact hle hrt
        · exact hle ((le_of_lt (hlater r hr)).trans hrt)
      have houtput : ∀ x ∈ s :: output', ¬ x.row.periodStart ≤ t := by
        intro x hx hxt
        rcases List.mem_cons.mp hx with rfl | hx
        · exact hle (hperiod ▸ hxt)
        · have hplace := List.mem_map_of_mem (f := fun s : Scored => s.row.place) hx
          rw [scoreRows_places hrun] at hplace
          obtain ⟨r, hr, heq⟩ := List.mem_map.mp hplace
          have hsame : r.periodStart = x.row.periodStart := congrArg (fun p => p.2.1) heq
          exact hrows r (List.mem_cons_of_mem _ hr) (hsame ▸ hxt)
      rw [upTo_eq_nil hrows, upTo_eq_nil houtput]
      rfl

theorem scorePartition_upTo {partition : List MetricRow} {output : List Scored}
    (hpartition : (partition.map MetricRow.periodStart).Nodup)
    (h : scorePartition config partition = .ok output) :
    scorePartition config (upTo MetricRow.periodStart t partition) =
      .ok (upTo (·.row.periodStart) t output) := by
  have hstrict := Sorted.byKey_strict hpartition
  have hsort : byKey MetricRow.periodStart (upTo MetricRow.periodStart t partition) =
      upTo MetricRow.periodStart t (byKey MetricRow.periodStart partition) :=
    (Sorted.filter_byKey hpartition _).symm
  rw [scorePartition] at h ⊢
  rw [hsort]
  cases hrows : byKey MetricRow.periodStart partition with
  | nil =>
    rw [hrows] at h
    obtain rfl : [] = output := pure_eq_ok.mp h
    rfl
  | cons first rest =>
    rw [hrows] at h hstrict
    obtain ⟨setup, hsetup, h⟩ := bind_eq_ok.mp h
    have hrun := scoreRows_upTo (t := t) hstrict h
    by_cases hle : first.periodStart ≤ t
    · rw [upTo_cons_of_le hle] at hrun ⊢
      exact bind_eq_ok.mpr ⟨setup, hsetup, hrun⟩
    · have hlate : ∀ r ∈ first :: rest, ¬ r.periodStart ≤ t := by
        intro r hr hrt
        rcases List.mem_cons.mp hr with rfl | hr
        · exact hle hrt
        · exact hle ((le_of_lt ((List.pairwise_cons.mp hstrict).1 r hr)).trans hrt)
      rw [upTo_eq_nil hlate] at hrun ⊢
      exact hrun

/-- The order in which the rows of a series come does not matter. -/
theorem scorePartition_perm {partition partition' : List MetricRow}
    (hpartition : (partition.map MetricRow.periodStart).Nodup)
    (hperm : partition.Perm partition') :
    scorePartition config partition = scorePartition config partition' := by
  rw [scorePartition, scorePartition, Sorted.byKey_congr hpartition hperm]

-- ---------------------------------------------------------------------------
-- The table
-- ---------------------------------------------------------------------------

/-- A row is scored among the rows of its own series. -/
theorem mem_scoreSeries {metrics : List MetricRow} {scored : List Scored} {s : Scored}
    (h : scoreSeries config metrics = .ok scored) :
    s ∈ scored ↔ ∃ output,
      scorePartition config (part (·.seriesId) metrics s.row.seriesId) = .ok output ∧ s ∈ output := by
  simp only [scoreSeries, bind_eq_ok, pure_eq_ok] at h
  obtain ⟨outputs, houtputs, -, -, rfl⟩ := h
  have hsource : ∀ {seriesId output}, scorePartition config (part (·.seriesId) metrics seriesId) =
      .ok output → s ∈ output → ∃ r ∈ metrics, r.seriesId = seriesId ∧ s.row.seriesId = seriesId := by
    intro seriesId output hpart hs
    have hplace := (scorePartition_places hpart).mem_iff.mp
      (List.mem_map_of_mem (f := fun s : Scored => s.row.place) hs)
    obtain ⟨r, hr, heq⟩ := List.mem_map.mp hplace
    obtain ⟨hmem, hseries⟩ := Partition.mem_part.mp hr
    exact ⟨r, hmem, hseries, (congrArg Prod.fst heq).symm.trans hseries⟩
  rw [sortRows, Sorted.mem_byKey, List.mem_flatten]
  constructor
  · rintro ⟨output, houtput, hs⟩
    obtain ⟨partition, hpartition, hpart⟩ := (Checks.mapM_mem houtputs).mp houtput
    obtain ⟨r, -, rfl⟩ := Partition.mem_parts.mp hpartition
    obtain ⟨-, -, -, hseries⟩ := hsource hpart hs
    exact ⟨output, hseries ▸ hpart, hs⟩
  · rintro ⟨output, hpart, hs⟩
    obtain ⟨r, hr, hseries, -⟩ := hsource hpart hs
    refine ⟨output, (Checks.mapM_mem houtputs).mpr ⟨_, ?_, hpart⟩, hs⟩
    exact Partition.mem_parts.mpr ⟨r, hr, by rw [hseries]⟩

omit [DetectionMath] [Hashing] [PeriodText] in
theorem OneRowEach.part_nodup {metrics : List MetricRow} (h : OneRowEach metrics)
    (seriesId : String) :
    ((part (·.seriesId) metrics seriesId).map MetricRow.periodStart).Nodup := by
  have hpairs : ((part (·.seriesId) metrics seriesId).map
      fun r => (r.seriesId, r.periodStart)).Nodup := h.sublist (List.filter_sublist.map _)
  rw [List.nodup_map_iff_inj_on (List.Nodup.of_map _ hpairs)]
  intro r hr r' hr' hsame
  refine List.inj_on_of_nodup_map hpairs hr hr' (Prod.ext ?_ hsame)
  exact (Partition.mem_part.mp hr).2.trans (Partition.mem_part.mp hr').2.symm

/-- A row is scored from a row of its series and its period. -/
theorem scored_source {metrics : List MetricRow} {scored : List Scored}
    (h : scoreSeries config metrics = .ok scored) (hs : s ∈ scored) :
    ∃ r ∈ metrics, r.seriesId = s.row.seriesId ∧ r.periodStart = s.row.periodStart := by
  have hplace := (scoreSeries_places h).mem_iff.mp
    (List.mem_map_of_mem (f := fun s : Scored => s.row.place) hs)
  obtain ⟨r, hr, heq⟩ := List.mem_map.mp hplace
  exact ⟨r, hr, congrArg Prod.fst heq, congrArg (fun p => p.2.1) heq⟩

/-- What is scored of a series up to a moment is decided by the rows of the
series up to the moment. -/
theorem mem_scoreSeries_of_same {metrics metrics' : List MetricRow} {scored scored' : List Scored}
    (hm : OneRowEach metrics) (hm' : OneRowEach metrics')
    (h : scoreSeries config metrics = .ok scored) (h' : scoreSeries config metrics' = .ok scored')
    {s : Scored} (hsame : ∀ r : MetricRow, r.seriesId = s.row.seriesId → r.periodStart ≤ t →
      (r ∈ metrics ↔ r ∈ metrics'))
    (ht : s.row.periodStart ≤ t) (hs : s ∈ scored) : s ∈ scored' := by
  obtain ⟨r, hr, hseries, hperiod⟩ := scored_source h hs
  have hr' : r ∈ metrics' := (hsame r hseries (hperiod ▸ ht)).mp hr
  obtain ⟨output, hpart, hmem⟩ := (mem_scoreSeries h).mp hs
  have hnodup := hm.part_nodup s.row.seriesId
  have hnodup' := hm'.part_nodup s.row.seriesId
  -- Up to the moment the two tables have the same rows of the series.
  have hperm : (upTo MetricRow.periodStart t (part (·.seriesId) metrics s.row.seriesId)).Perm
      (upTo MetricRow.periodStart t (part (·.seriesId) metrics' s.row.seriesId)) := by
    have hearly := List.Nodup.of_map _ (upTo_nodup (p := MetricRow.periodStart) (t := t) hnodup)
    have hearly' := List.Nodup.of_map _
      (upTo_nodup (p := MetricRow.periodStart) (t := t) hnodup')
    refine (List.perm_ext_iff_of_nodup hearly hearly').mpr fun x => ?_
    rw [mem_upTo, mem_upTo, Partition.mem_part, Partition.mem_part]
    constructor
    · rintro ⟨⟨hx, hsx⟩, hle⟩
      exact ⟨⟨(hsame x hsx hle).mp hx, hsx⟩, hle⟩
    · rintro ⟨⟨hx, hsx⟩, hle⟩
      exact ⟨⟨(hsame x hsx hle).mpr hx, hsx⟩, hle⟩
  obtain ⟨output', hpart'⟩ : ∃ output',
      scorePartition config (part (·.seriesId) metrics' s.row.seriesId) = .ok output' := by
    simp only [scoreSeries, bind_eq_ok] at h'
    obtain ⟨outputs, houtputs, -⟩ := h'
    refine Checks.mapM_returns.mp ⟨outputs, houtputs⟩ _ ?_
    exact Partition.mem_parts.mpr ⟨r, hr', by rw [hseries]⟩
  have hearly := scorePartition_upTo (t := t) hnodup hpart
  have hearly' := scorePartition_upTo (t := t) hnodup' hpart'
  rw [scorePartition_perm (upTo_nodup hnodup) hperm] at hearly
  have heq : upTo (·.row.periodStart) t output = upTo (·.row.periodStart) t output' :=
    Except.ok.inj (hearly.symm.trans hearly')
  have hfound : s ∈ upTo (fun s : Scored => s.row.periodStart) t output' :=
    heq ▸ mem_upTo.mpr ⟨hmem, ht⟩
  exact (mem_scoreSeries h').mpr ⟨output', hpart', (mem_upTo.mp hfound).1⟩

theorem scoreSeries_strict {metrics : List MetricRow} {scored : List Scored}
    (hm : OneRowEach metrics) (h : scoreSeries config metrics = .ok scored) :
    Strict (fun s : Scored => s.row.key) scored := by
  have hpairs : (scored.map fun s => (s.row.seriesId, s.row.periodStart)).Nodup := by
    have hperm := (scoreSeries_places h).map fun place => (place.1, place.2.1)
    rw [List.map_map, List.map_map] at hperm
    exact hperm.nodup_iff.mpr hm
  have hkeys : (scored.map fun s => s.row.key).Nodup := by
    refine List.Nodup.of_map (fun key => ((ofLex (ofLex key).2).2, (ofLex (ofLex key).2).1)) ?_
    rw [List.map_map]
    exact hpairs
  simp only [scoreSeries, bind_eq_ok, pure_eq_ok] at h
  obtain ⟨outputs, -, -, -, rfl⟩ := h
  refine Sorted.byKey_strict ?_
  exact ((Sorted.byKey_perm _ _).map _).nodup_iff.mp hkeys

/-- A run over the rows up to a moment scores what the whole run scores of them. -/
theorem scoreSeries_upTo {metrics : List MetricRow} {scored : List Scored}
    (hm : OneRowEach metrics) (h : scoreSeries config metrics = .ok scored)
    (hsome : upTo MetricRow.periodStart t metrics ≠ []) :
    scoreSeries config (upTo MetricRow.periodStart t metrics) =
      .ok (upTo (·.row.periodStart) t scored) := by
  have hm' : OneRowEach (upTo MetricRow.periodStart t metrics) := upTo_nodup hm
  have hcomm : ∀ seriesId, part (·.seriesId) (upTo MetricRow.periodStart t metrics) seriesId =
      upTo MetricRow.periodStart t (part (·.seriesId) metrics seriesId) := by
    intro seriesId
    simp only [part, upTo, List.filter_filter, Bool.and_comm]
  -- no partition fails on its first rows
  have hpartitions : ∃ outputs, (parts (·.seriesId) (upTo MetricRow.periodStart t metrics)).mapM
      (scorePartition config) = .ok outputs := by
    refine Checks.mapM_returns.mpr fun partition hpartition => ?_
    obtain ⟨r, hr, rfl⟩ := Partition.mem_parts.mp hpartition
    simp only [scoreSeries, bind_eq_ok] at h
    obtain ⟨outputs, houtputs, -⟩ := h
    obtain ⟨output, hpart⟩ := Checks.mapM_returns.mp ⟨outputs, houtputs⟩ _
      (Partition.mem_parts.mpr ⟨r, (mem_upTo.mp hr).1, rfl⟩)
    rw [hcomm]
    exact ⟨_, scorePartition_upTo (hm.part_nodup _) hpart⟩
  obtain ⟨outputs, houtputs⟩ := hpartitions
  obtain ⟨r, hr⟩ := List.exists_mem_of_ne_nil _ hsome
  have hfound : outputs.flatten ≠ [] := by
    obtain ⟨output, hpart⟩ := Checks.mapM_returns.mp ⟨outputs, houtputs⟩ _
      (Partition.mem_parts.mpr ⟨r, hr, rfl⟩)
    have hmem := (Checks.mapM_mem houtputs).mpr ⟨_, Partition.mem_parts.mpr ⟨r, hr, rfl⟩, hpart⟩
    have hlength := (scorePartition_places hpart).length_eq
    rw [List.length_map, List.length_map] at hlength
    intro hnil
    obtain rfl : output = [] := List.flatten_eq_nil_iff.mp hnil output hmem
    have hempty : part (·.seriesId) (upTo MetricRow.periodStart t metrics) r.seriesId = [] :=
      List.eq_nil_of_length_eq_zero hlength.symm
    exact List.not_mem_nil (hempty ▸ Partition.mem_part.mpr ⟨hr, rfl⟩)
  have h' : scoreSeries config (upTo MetricRow.periodStart t metrics) =
      .ok (sortRows outputs.flatten) := by
    rw [scoreSeries, houtputs, ok_bind, Checks.raiseIf_neg hfound]
    rfl
  rw [h']
  refine congrArg Except.ok ?_
  refine (scoreSeries_strict hm' h').eq_of_mem_iff ((scoreSeries_strict hm h).filter _) fun s => ?_
  have hsame : ∀ r : MetricRow, r.periodStart ≤ t →
      (r ∈ metrics ↔ r ∈ upTo MetricRow.periodStart t metrics) :=
    fun r hr => (mem_upTo.trans (and_iff_left hr)).symm
  constructor
  · intro hs
    obtain ⟨r, hr, -, hperiod⟩ := scored_source h' hs
    have hle : s.row.periodStart ≤ t := hperiod ▸ (mem_upTo.mp hr).2
    exact mem_upTo.mpr ⟨mem_scoreSeries_of_same hm' hm h' h
      (fun r _ hr => (hsame r hr).symm) hle hs, hle⟩
  · intro hs
    obtain ⟨hs, hle⟩ := mem_upTo.mp hs
    exact mem_scoreSeries_of_same hm hm' h h' (fun r _ hr => hsame r hr) hle hs

end

-- ---------------------------------------------------------------------------
-- The false discovery rate
-- ---------------------------------------------------------------------------

section
variable [DetectionMath] {rows : List Scored}

/-- The rows of a group, in the order of the table. -/
def fdrMembers (rows : List Scored) (group : TimeGrain × Instant) : List Scored :=
  rows.filter fun s => fdrGroup s.row = some group

/-- The q-value of a row among the rows of a table. -/
def qAmong (rows : List Scored) (s : Scored) : Option Rat :=
  (fdrGroup s.row).bind fun group =>
    ((fdrMembers rows group).zip
      (benjaminiHochberg ((fdrMembers rows group).map fun m => m.row.pValue.getD 1))).lookup s

/-- The indices of a group. -/
def groupIndices (rows : List Scored) (group : TimeGrain × Instant) : List Nat :=
  (List.range rows.length).filter fun i => (rows[i]?.bind fun s => fdrGroup s.row) = some group

omit [DetectionMath] in
theorem mem_groupIndices (hs : rows[i]? = some s) :
    i ∈ groupIndices rows group ↔ fdrGroup s.row = some group := by
  have hi : i < rows.length := (List.getElem?_eq_some_iff.mp hs).1
  rw [groupIndices, List.mem_filter, decide_eq_true_eq, hs, Option.bind_some, List.mem_range]
  exact and_iff_right hi

omit [DetectionMath] in
theorem groupIndices_rows (rows : List Scored) (group : TimeGrain × Instant) :
    (groupIndices rows group).map (fun i => rows[i]?) = (fdrMembers rows group).map some := by
  rw [fdrMembers, ← Partition.filter_places]
  refine congrArg _ (List.filter_congr fun i _ => ?_)
  cases rows[i]? <;> rfl

omit [DetectionMath] in
/-- The q-values of a group, by index and by row. -/
theorem lookup_group (hnodup : rows.Nodup) (hs : rows[i]? = some s) (values : List Rat) :
    ((groupIndices rows group).zip values).lookup i =
      ((fdrMembers rows group).zip values).lookup s := by
  have hi : i < rows.length := (List.getElem?_eq_some_iff.mp hs).1
  have hplaces : ∀ j ∈ groupIndices rows group, rows[j]? = rows[i]? → j = i := by
    intro j hj heq
    have hj : j < rows.length := List.mem_range.mp (List.mem_filter.mp hj).1
    exact (List.getElem?_inj hj hnodup).mp heq
  have hsome : ∀ m ∈ fdrMembers rows group, some m = some s → m = s := fun m _ => Option.some.inj
  rw [← Entries.lookup_zip_map hplaces, groupIndices_rows, hs, Entries.lookup_zip_map hsome]

theorem lookup_qValues (hnodup : rows.Nodup) (hs : rows[i]? = some s) :
    (qValues rows).lookup i = qAmong rows s := by
  have hvalues : ∀ group, (groupIndices rows group).map
      (fun i => (rows[i]?.bind (·.row.pValue)).getD 1) =
        (fdrMembers rows group).map fun m => m.row.pValue.getD 1 := by
    intro group
    have h := congrArg (List.map fun o : Option Scored => (o.bind (·.row.pValue)).getD 1)
      (groupIndices_rows rows group)
    rwa [List.map_map, List.map_map] at h
  have hq : qValues rows = (Partition.distinct (rows.filterMap fun s => fdrGroup s.row)).flatMap
      fun group => (groupIndices rows group).zip
        (benjaminiHochberg ((fdrMembers rows group).map fun m => m.row.pValue.getD 1)) := by
    rw [qValues, fdrGroups, List.flatMap_map]
    refine congrArg (fun f => List.flatMap f _) (funext fun group => ?_)
    rw [← hvalues]
    rfl
  have hnone : ∀ (group : TimeGrain × Instant) (values : List Rat), fdrGroup s.row ≠ some group →
      ((groupIndices rows group).zip values).lookup i = none := by
    intro group values hne
    refine List.lookup_eq_none_iff.mpr fun entry hentry => ?_
    have hmem := (List.of_mem_zip (a := entry.1) (b := entry.2) hentry).1
    rw [bne_iff_ne]
    rintro rfl
    exact hne ((mem_groupIndices hs).mp hmem)
  rw [hq, qAmong]
  cases hgroup : fdrGroup s.row with
  | none =>
    refine List.lookup_eq_none_iff.mpr fun entry hentry => ?_
    obtain ⟨group, -, hentry⟩ := List.mem_flatMap.mp hentry
    exact List.lookup_eq_none_iff.mp (hnone group _ (by rw [hgroup]; rintro ⟨⟩)) entry hentry
  | some group =>
    have hmem : group ∈ Partition.distinct (rows.filterMap fun s => fdrGroup s.row) := by
      rw [Partition.mem_distinct, List.mem_filterMap]
      exact ⟨s, List.mem_of_getElem? hs, hgroup⟩
    rw [Entries.lookup_flatMap _ group fun other _ hne =>
      hnone other _ (by rw [hgroup]; exact fun h => hne (Option.some.inj h).symm), if_pos hmem,
      lookup_group hnodup hs]
    rfl

/-- `_apply_fdr`, row by row. -/
theorem applyFdr_eq (hnodup : rows.Nodup) :
    applyFdr rows = sortRows (rows.map fun s => s.withQ (qAmong rows s)) := by
  refine congrArg sortRows ?_
  refine List.ext_getElem (by simp) fun i hi hi' => ?_
  rw [List.length_mapIdx] at hi
  rw [List.getElem_mapIdx, List.getElem_map, lookup_qValues hnodup (List.getElem?_eq_getElem hi)]

omit [DetectionMath] in
theorem withQ_key (s : Scored) (q : Option Rat) : (s.withQ q).row.key = s.row.key := by
  cases q <;> rfl

omit [DetectionMath] in
theorem withQ_periodStart (s : Scored) (q : Option Rat) :
    (s.withQ q).row.periodStart = s.row.periodStart := by
  cases q <;> rfl

omit [DetectionMath] in
/-- The rows of a period up to a moment are among the rows up to the moment. -/
theorem fdrMembers_upTo (hle : group.2 ≤ t) :
    fdrMembers (upTo (·.row.periodStart) t rows) group = fdrMembers rows group := by
  rw [fdrMembers, fdrMembers, upTo, List.filter_filter]
  refine List.filter_congr fun s _ => ?_
  by_cases hgroup : fdrGroup s.row = some group
  · have hperiod : s.row.periodStart = group.2 := by
      unfold fdrGroup at hgroup
      split at hgroup
      · exact congrArg Prod.snd (Option.some.inj hgroup)
      · contradiction
    simp [hgroup, hperiod, hle]
  · simp [hgroup]

theorem qAmong_upTo {s : Scored} (hle : s.row.periodStart ≤ t) :
    qAmong (upTo (·.row.periodStart) t rows) s = qAmong rows s := by
  unfold qAmong
  cases hgroup : fdrGroup s.row with
  | none => rfl
  | some group =>
    have hperiod : group.2 ≤ t := by
      unfold fdrGroup at hgroup
      split at hgroup
      · exact Option.some.inj hgroup ▸ hle
      · contradiction
    rw [Option.bind_some, Option.bind_some, fdrMembers_upTo hperiod]

theorem applyFdr_strict (hrows : Strict (fun s : Scored => s.row.key) rows) :
    Strict (fun s : Scored => s.row.key) (applyFdr rows) := by
  rw [applyFdr_eq (List.Nodup.of_map _ hrows.nodup)]
  refine Sorted.byKey_strict ?_
  have hq : Strict (fun s : Scored => s.row.key) (rows.map fun s => s.withQ (qAmong rows s)) :=
    hrows.map fun s => withQ_key s _
  exact hq.nodup

theorem applyFdr_upTo (hrows : Strict (fun s : Scored => s.row.key) rows) :
    applyFdr (upTo (·.row.periodStart) t rows) = upTo (·.row.periodStart) t (applyFdr rows) := by
  have hnodup := List.Nodup.of_map _ hrows.nodup
  have hearly : Strict (fun s : Scored => s.row.key) (upTo (·.row.periodStart) t rows) :=
    hrows.filter _
  refine (applyFdr_strict hearly).eq_of_mem_iff ((applyFdr_strict hrows).filter _) fun s => ?_
  rw [applyFdr_eq (List.Nodup.of_map _ hearly.nodup), sortRows, Sorted.mem_byKey, List.mem_map,
    mem_upTo, applyFdr_eq hnodup, sortRows, Sorted.mem_byKey, List.mem_map]
  constructor
  · rintro ⟨r, hr, rfl⟩
    obtain ⟨hr, hle⟩ := mem_upTo.mp hr
    exact ⟨⟨r, hr, by rw [qAmong_upTo hle]⟩, (withQ_periodStart r _).symm ▸ hle⟩
  · rintro ⟨⟨r, hr, rfl⟩, hle⟩
    rw [withQ_periodStart] at hle
    exact ⟨r, mem_upTo.mpr ⟨hr, hle⟩, by rw [qAmong_upTo hle]⟩

-- ---------------------------------------------------------------------------
-- The alerts
-- ---------------------------------------------------------------------------

theorem finalizeAlerts_upTo {config : DetectionConfig}
    (hrows : Strict (fun s : Scored => s.row.key) rows) :
    finalizeAlerts config (upTo (·.row.periodStart) t rows) =
      upTo Observation.periodStart t (finalizeAlerts config rows) := by
  have hkeys : ((rows.map (finalizeRow config)).map Observation.key).Nodup :=
    Strict.nodup (hrows.map (f := finalizeRow config) fun _ => rfl)
  rw [finalizeAlerts, finalizeAlerts]
  refine (congrArg (Sorted.byKey Observation.key) ?_).trans (Sorted.filter_byKey hkeys _).symm
  exact (List.filter_map (p := fun o : Observation => decide (o.periodStart ≤ t))).symm

variable [Hashing] [PeriodText] {config : DetectionConfig}

/-- The detector run on the rows up to a moment finds what the run on all rows
finds of them. -/
theorem detect_upTo {metrics : List MetricRow} {observations : List Observation}
    (hm : OneRowEach metrics) (h : detect config metrics = .ok observations)
    (hsome : upTo MetricRow.periodStart t metrics ≠ []) :
    detect config (upTo MetricRow.periodStart t metrics) =
      .ok (upTo Observation.periodStart t observations) := by
  simp only [detect, bind_eq_ok, pure_eq_ok] at h
  obtain ⟨scored, hscored, rfl⟩ := h
  have hstrict := scoreSeries_strict hm hscored
  rw [detect, scoreSeries_upTo hm hscored hsome, ok_bind, applyFdr_upTo hstrict,
    finalizeAlerts_upTo (applyFdr_strict hstrict)]
  rfl

theorem scored_upTo_iff {metrics metrics' : List MetricRow} {scored scored' : List Scored}
    (hm : OneRowEach metrics) (hm' : OneRowEach metrics')
    (h : scoreSeries config metrics = .ok scored) (h' : scoreSeries config metrics' = .ok scored')
    {s : Scored} (hsame : ∀ r : MetricRow, r.seriesId = s.row.seriesId → r.periodStart ≤ t →
      (r ∈ metrics ↔ r ∈ metrics')) :
    s ∈ upTo (·.row.periodStart) t scored ↔ s ∈ upTo (·.row.periodStart) t scored' := by
  rw [mem_upTo, mem_upTo]
  refine and_congr_left fun hle => ⟨mem_scoreSeries_of_same hm hm' h h' hsame hle, ?_⟩
  exact mem_scoreSeries_of_same hm' hm h' h (fun r hr hle => (hsame r hr hle).symm) hle

/-- Two tables with the same rows up to a moment: what is found of the periods
up to the moment is the same, and is what a run on those rows alone finds. What
is scored of a series does not even depend on the rows of the others. -/
theorem no_look_ahead {metrics metrics' : List MetricRow} {observations observations' : List Observation}
    (hm : OneRowEach metrics) (hm' : OneRowEach metrics')
    (h : detect config metrics = .ok observations) (h' : detect config metrics' = .ok observations') :
    ((∀ r : MetricRow, r.periodStart ≤ t → (r ∈ metrics ↔ r ∈ metrics')) →
      upTo Observation.periodStart t observations = upTo Observation.periodStart t observations') ∧
    (upTo MetricRow.periodStart t metrics ≠ [] →
      detect config (upTo MetricRow.periodStart t metrics) =
        .ok (upTo Observation.periodStart t observations)) ∧
    ∀ scored scored', scoreSeries config metrics = .ok scored →
      scoreSeries config metrics' = .ok scored' → ∀ seriesId,
      (∀ r : MetricRow, r.seriesId = seriesId → r.periodStart ≤ t →
        (r ∈ metrics ↔ r ∈ metrics')) →
      part (·.row.seriesId) (upTo (·.row.periodStart) t scored) seriesId =
        part (·.row.seriesId) (upTo (·.row.periodStart) t scored') seriesId := by
  refine ⟨fun hsame => ?_, detect_upTo hm h, fun scored scored' hs hs' seriesId hsame => ?_⟩
  · simp only [detect, bind_eq_ok, pure_eq_ok] at h h'
    obtain ⟨scored, hs, rfl⟩ := h
    obtain ⟨scored', hs', rfl⟩ := h'
    have hstrict := scoreSeries_strict hm hs
    have hstrict' := scoreSeries_strict hm' hs'
    have hscored : upTo (·.row.periodStart) t scored = upTo (·.row.periodStart) t scored' := by
      refine Strict.eq_of_mem_iff (hstrict.filter _) (hstrict'.filter _) fun s => ?_
      exact scored_upTo_iff hm hm' hs hs' fun r _ => hsame r
    rw [← finalizeAlerts_upTo (applyFdr_strict hstrict), ← applyFdr_upTo hstrict, hscored,
      applyFdr_upTo hstrict', finalizeAlerts_upTo (applyFdr_strict hstrict')]
  · have hstrict := (scoreSeries_strict hm hs).filter fun s => decide (s.row.periodStart ≤ t)
    have hstrict' := (scoreSeries_strict hm' hs').filter fun s => decide (s.row.periodStart ≤ t)
    refine Strict.eq_of_mem_iff (hstrict.filter _) (hstrict'.filter _) fun s => ?_
    change s ∈ part (·.row.seriesId) (upTo (·.row.periodStart) t scored) seriesId ↔
      s ∈ part (·.row.seriesId) (upTo (·.row.periodStart) t scored') seriesId
    rw [Partition.mem_part, Partition.mem_part]
    refine and_congr_left fun hseries => scored_upTo_iff hm hm' hs hs' fun r hr => ?_
    exact hsame r (hr.trans hseries)

end

attribute [local instance] exactMath Sample.periodText

/-- The fourth hour changes nothing about the first three. -/
theorem no_look_ahead_sample : ∃ observations observations',
    detect Sample.config Sample.metrics = .ok observations ∧
    detect Sample.config (Sample.metrics.take 3) = .ok observations' ∧
    upTo Observation.periodStart (3 * periodDelta .hour) observations =
      upTo Observation.periodStart (3 * periodDelta .hour) observations' := by
  obtain ⟨observations, h⟩ := Sample.detected
  have hok : (detect Sample.config (Sample.metrics.take 3)).isOk = true := by decide +kernel
  cases h' : detect Sample.config (Sample.metrics.take 3) with
  | error e =>
    rw [h'] at hok
    contradiction
  | ok observations' =>
    have hm : OneRowEach Sample.metrics := by
      unfold OneRowEach
      decide +kernel
    have hm' : OneRowEach (Sample.metrics.take 3) := hm.sublist ((List.take_sublist _ _).map _)
    refine ⟨observations, observations', h, rfl, (no_look_ahead hm hm' h h').1 fun r hr => ?_⟩
    refine ⟨fun hmem => ?_, List.mem_of_mem_take⟩
    have hlast : r ≠ Sample.deployments 4 12 := by
      rintro rfl
      exact absurd hr (by decide)
    simpa [Sample.metrics, hlast] using hmem

end Paic.Detection
