import Paic.Impact.Engine
import Paic.Lib.Partition
import Mathlib

/-!
# Survival curves reconcile with their groups

Nobody is censored before the last time of a group, so that the product of the
Kaplan-Meier curve telescopes: what survives a time is the share of those who
are followed beyond it or censored at it.
-/

namespace Paic.Impact

open Checks (bind_eq_ok mapM_ok raiseIf_ok need_ok pure_eq_ok)
open Sorted (Strict byKey)

-- ---------------------------------------------------------------------------
-- Counts at a time
-- ---------------------------------------------------------------------------

/-- The members who are followed beyond a time. -/
def laterThan (members : List Followed) (time : Rat) : Nat :=
  members.countP fun m => time < m.duration

/-- Nobody is followed beyond a member who is censored. -/
def CensoredLast (members : List Followed) : Prop :=
  ∀ m ∈ members, m.event = false → ∀ m' ∈ members, m'.duration ≤ m.duration

theorem atRisk_split (members : List Followed) (time : Rat) :
    atRiskAt members time =
      observedAt members time + (laterThan members time + censoredAt members time) := by
  induction members with
  | nil => rfl
  | cons m members ih =>
    simp only [atRiskAt, observedAt, laterThan, censoredAt, List.countP_cons] at ih ⊢
    rw [ih]
    rcases lt_trichotomy time m.duration with h | h | h
    · simp [h, h.le, h.ne']
      omega
    · subst h
      cases m.event <;> simp <;> omega
    · simp [h.not_ge, h.not_gt, h.ne]

/-- Whoever is followed beyond a time is at risk at the next one. -/
theorem laterThan_eq_atRisk {members : List Followed}
    (hnext : ∀ m ∈ members, time < m.duration ↔ next ≤ m.duration) :
    laterThan members time = atRiskAt members next := by
  refine List.countP_congr fun m hm => ?_
  rw [decide_eq_true_iff, decide_eq_true_iff]
  exact hnext m hm

theorem censoredAt_eq_zero {members : List Followed} (hlast : CensoredLast members)
    (hm : m ∈ members) (hlater : time < m.duration) : censoredAt members time = 0 := by
  rw [censoredAt, List.countP_eq_zero]
  intro m' hm' h
  obtain ⟨rfl, hevent⟩ := of_decide_eq_true h
  exact absurd (hlast m' hm' hevent m hm) hlater.not_ge

theorem atRiskAt_pos {members : List Followed} (hm : m ∈ members) :
    0 < atRiskAt members m.duration :=
  List.countP_pos_iff.mpr ⟨m, hm, decide_eq_true le_rfl⟩

theorem followed_split (members : List Followed) (time : Rat) :
    observedAt members time + censoredAt members time =
      (Partition.part Followed.duration members time).length := by
  rw [Partition.part, ← List.countP_eq_length_filter]
  induction members with
  | nil => rfl
  | cons m members ih =>
    simp only [observedAt, censoredAt, List.countP_cons] at ih ⊢
    rw [← ih]
    by_cases h : m.duration = time
    · cases m.event <;> simp [h] <;> omega
    · simp [h]

/-- One factor of the product takes those away who have had the event. -/
theorem falls_survival {observed atRisk rest : Nat} (hsplit : atRisk = observed + rest)
    (hpos : 0 < atRisk) (hsurvival : survival * size = (atRisk : Rat)) :
    (if observed ≠ 0 ∧ atRisk ≠ 0 then survival * (1 - (observed : Rat) / atRisk) else survival) *
      size = rest := by
  have hcast : (atRisk : Rat) = observed + rest := by exact_mod_cast hsplit
  by_cases hobserved : observed = 0
  · rw [if_neg (fun h => h.1 hobserved), hsurvival, hcast, hobserved]
    simp
  · have hne : (atRisk : Rat) ≠ 0 := by exact_mod_cast hpos.ne'
    rw [if_pos ⟨hobserved, hpos.ne'⟩, mul_right_comm, hsurvival, mul_sub, mul_one,
      mul_div_cancel₀ _ hne, hcast, add_sub_cancel_left]

theorem mem_unique : time ∈ unique values ↔ time ∈ values := by
  rw [unique, Sorted.mem_byKey, List.mem_dedup]

theorem unique_sorted (values : List Rat) : (unique values).Pairwise (· < ·) :=
  Sorted.byKey_strict (by rw [List.map_id]; exact List.nodup_dedup values : (values.dedup.map id).Nodup)

/-- Fewer survive a later time. -/
theorem remaining_le {members : List Followed}
    (hm : ∃ m ∈ members, m.duration = next) (hlt : time < next) :
    laterThan members next + censoredAt members next ≤
      laterThan members time + censoredAt members time := by
  obtain ⟨m, hm, rfl⟩ := hm
  have hatRisk : atRiskAt members m.duration ≤ laterThan members time :=
    List.countP_mono_left fun m' _ h => by
      rw [decide_eq_true_iff] at h ⊢
      exact hlt.trans_le h
  have hsplit := atRisk_split members m.duration
  omega

section
variable [IntervalMath]

-- ---------------------------------------------------------------------------
-- The rows of a curve
-- ---------------------------------------------------------------------------

theorem survivalRows_times (z : Rat) (members : List Followed) (survival greenwood : Rat)
    (times : List Rat) :
    (survivalRows z members survival greenwood times).map SurvivalPoint.timeDays = times := by
  induction times generalizing survival greenwood with
  | nil => rfl
  | cons time times ih => rw [survivalRows, List.map_cons, ih]

/-- Each row counts the members at its time. -/
theorem survivalRows_counts {z : Rat} {members : List Followed} {survival greenwood : Rat}
    {times : List Rat} : ∀ row ∈ survivalRows z members survival greenwood times,
      row.atRisk = atRiskAt members row.timeDays ∧
      row.events = observedAt members row.timeDays ∧
      row.censored = censoredAt members row.timeDays := by
  induction times generalizing survival greenwood with
  | nil => exact fun _ h => absurd h List.not_mem_nil
  | cons time times ih =>
    rw [survivalRows]
    exact List.forall_mem_cons.mpr ⟨⟨rfl, rfl, rfl⟩, ih⟩

/-- What survives each time, when those at risk at the first of the times
survive up to it. -/
theorem survivalRows_survival {z : Rat} {members : List Followed} (hlast : CensoredLast members)
    {survival greenwood : Rat} {times : List Rat} (hsorted : times.Pairwise (· < ·))
    (htimes : ∀ time ∈ times, ∃ m ∈ members, m.duration = time)
    (hcover : ∀ m ∈ members, m.duration ∈ times ∨ ∀ time ∈ times, m.duration < time)
    (hsurvival : ∀ time ∈ times.head?, survival * members.length = atRiskAt members time) :
    ∀ row ∈ survivalRows z members survival greenwood times,
      row.survivalProbability * members.length =
        (laterThan members row.timeDays + censoredAt members row.timeDays : Nat) := by
  induction times generalizing survival greenwood with
  | nil => exact fun _ h => absurd h List.not_mem_nil
  | cons time times ih =>
    obtain ⟨hfirst, hrest⟩ := List.pairwise_cons.mp hsorted
    obtain ⟨m, hm, hduration⟩ := htimes time List.mem_cons_self
    have hpos : 0 < atRiskAt members time := hduration ▸ atRiskAt_pos hm
    have hfalls := falls_survival (atRisk_split members time) hpos (hsurvival time rfl)
    rw [survivalRows]
    refine List.forall_mem_cons.mpr ⟨hfalls, ih hrest ?_ ?_ ?_⟩
    · exact fun next hnext => htimes next (List.mem_cons_of_mem _ hnext)
    · intro m hm
      rcases hcover m hm with hmem | hbefore
      · rcases List.mem_cons.mp hmem with heq | hmem
        · exact .inr fun next hnext => heq ▸ hfirst next hnext
        · exact .inl hmem
      · exact .inr fun next hnext => hbefore next (List.mem_cons_of_mem _ hnext)
    · -- whoever outlives this time is at risk at the next one
      intro next hnext
      obtain ⟨later, rfl⟩ : ∃ later, times = next :: later := List.head?_eq_some_iff.mp hnext
      have hlt : time < next := hfirst next List.mem_cons_self
      obtain ⟨m', hm', hduration'⟩ := htimes next (List.mem_cons_of_mem _ List.mem_cons_self)
      have hlater : laterThan members time = atRiskAt members next := by
        refine laterThan_eq_atRisk fun m hm => ⟨fun h => ?_, hlt.trans_le⟩
        rcases hcover m hm with hmem | hbefore
        · rcases List.mem_cons.mp ((List.mem_cons.mp hmem).resolve_left h.ne') with heq | hmem
          · exact heq.ge
          · exact (List.rel_of_pairwise_cons hrest hmem).le
        · exact absurd (hbefore time List.mem_cons_self) h.not_gt
      rw [hfalls, hlater, censoredAt_eq_zero hlast hm' (hduration' ▸ hlt), Nat.add_zero]

-- ---------------------------------------------------------------------------
-- The curve of a group
-- ---------------------------------------------------------------------------

/-- A curve that reconciles with the members of its group. -/
structure Reconciles (members : List Followed) (rows : List SurvivalPoint) : Prop where
  times : Strict SurvivalPoint.timeDays rows
  durations : ∀ time, (∃ row ∈ rows, row.timeDays = time) ↔ ∃ m ∈ members, m.duration = time
  atRisk : ∀ row ∈ rows, row.atRisk = members.countP fun m => row.timeDays ≤ m.duration
  total : (rows.map fun row => row.events + row.censored).sum = members.length
  survival : ∀ row ∈ rows, row.survivalProbability =
    ((members.countP fun m => row.timeDays < m.duration) + members.countP fun m =>
      m.duration = row.timeDays ∧ m.event = false : Nat) / (members.length : Rat)
  falls : rows.Pairwise fun row next => next.survivalProbability ≤ row.survivalProbability
  last : ∀ row ∈ rows.getLast?, row.survivalProbability =
    (members.countP fun m => m.event = false : Nat) / (members.length : Rat)

theorem kaplanMeier_reconciles {members : List Followed} (hlast : CensoredLast members)
    (confidence : Rat) : Reconciles members (kaplanMeier members confidence) := by
  rw [kaplanMeier]
  by_cases hempty : members = []
  · subst hempty
    rw [if_pos rfl]
    exact ⟨.nil, by simp, nofun, rfl, nofun, .nil, nofun⟩
  rw [if_neg hempty]
  have hsize : (members.length : Rat) ≠ 0 := by
    exact_mod_cast (List.length_pos_iff.mpr hempty).ne'
  have hsorted := unique_sorted (members.map Followed.duration)
  have hmem : ∀ {time}, time ∈ unique (members.map Followed.duration) ↔
      ∃ m ∈ members, m.duration = time := mem_unique.trans List.mem_map
  generalize hrows : survivalRows _ members 1 0 (unique (members.map Followed.duration)) = rows
  have htimes : rows.map SurvivalPoint.timeDays = unique (members.map Followed.duration) :=
    hrows ▸ survivalRows_times _ members 1 0 _
  have hcounts : ∀ row ∈ rows, row.atRisk = atRiskAt members row.timeDays ∧
      row.events = observedAt members row.timeDays ∧
      row.censored = censoredAt members row.timeDays := hrows ▸ survivalRows_counts
  have hstrict : Strict SurvivalPoint.timeDays rows := by
    rw [Strict, ← List.pairwise_map, htimes]
    exact hsorted
  have htime : ∀ row ∈ rows, ∃ m ∈ members, m.duration = row.timeDays := fun row hrow =>
    hmem.mp (htimes ▸ List.mem_map_of_mem hrow)
  -- everybody is at risk at the first time
  have hfirst : ∀ time ∈ (unique (members.map Followed.duration)).head?,
      1 * (members.length : Rat) = atRiskAt members time := by
    intro time htime
    obtain ⟨later, hunique⟩ := List.head?_eq_some_iff.mp htime
    have hall : atRiskAt members time = members.length := by
      refine List.countP_eq_length.mpr fun m hm => decide_eq_true ?_
      have hduration : m.duration ∈ time :: later := hunique ▸ hmem.mpr ⟨m, hm, rfl⟩
      rcases List.mem_cons.mp hduration with heq | hlater
      · exact heq.ge
      · exact (List.rel_of_pairwise_cons (hunique ▸ hsorted) hlater).le
    rw [one_mul, hall]
  have hsurvival : ∀ row ∈ rows, row.survivalProbability =
      (laterThan members row.timeDays + censoredAt members row.timeDays : Nat) /
        (members.length : Rat) := by
    intro row hrow
    rw [eq_div_iff hsize]
    exact survivalRows_survival hlast hsorted (fun _ => hmem.mp)
      (fun m hm => .inl (hmem.mpr ⟨m, hm, rfl⟩)) hfirst row (hrows ▸ hrow)
  constructor
  case times => exact hstrict
  case durations =>
    intro time
    rw [← hmem, ← htimes, List.mem_map]
  case atRisk => exact fun row hrow => (hcounts row hrow).1
  case total =>
    have hsum : (rows.map fun row => row.events + row.censored) =
        (unique (members.map Followed.duration)).map fun time =>
          (Partition.part Followed.duration members time).length := by
      rw [← htimes, List.map_map]
      refine List.map_congr_left fun row hrow => ?_
      obtain ⟨-, hevents, hcensored⟩ := hcounts row hrow
      rw [Function.comp_apply, hevents, hcensored, followed_split]
    rw [hsum]
    exact Partition.sum_length_part (hsorted.imp ne_of_lt) fun m hm => hmem.mpr ⟨m, hm, rfl⟩
  case survival => exact hsurvival
  case falls =>
    refine hstrict.imp_of_mem fun {row next} hrow hnext hlt => ?_
    rw [hsurvival row hrow, hsurvival next hnext]
    have hle := remaining_le (htime next hnext) hlt
    exact div_le_div_of_nonneg_right (by exact_mod_cast hle) (Nat.cast_nonneg _)
  case last =>
    intro row hrow
    obtain ⟨earlier, rfl⟩ := List.getLast?_eq_some_iff.mp hrow
    have hmax : ∀ m ∈ members, m.duration ≤ row.timeDays := by
      intro m hm
      have hduration : m.duration ∈ (earlier ++ [row]).map SurvivalPoint.timeDays :=
        htimes ▸ hmem.mpr ⟨m, hm, rfl⟩
      obtain ⟨other, hother, heq⟩ := List.mem_map.mp hduration
      rcases List.mem_append.mp hother with hearlier | hsame
      · exact heq ▸ ((List.pairwise_append.mp hstrict).2.2 other hearlier row (by simp)).le
      · rw [← heq, List.mem_singleton.mp hsame]
    have hnone : laterThan members row.timeDays = 0 :=
      List.countP_eq_zero.mpr fun m hm h => absurd (hmax m hm) (of_decide_eq_true h).not_ge
    have hall : censoredAt members row.timeDays = members.countP fun m => m.event = false := by
      refine List.countP_congr fun m hm => ?_
      rw [decide_eq_true_iff, decide_eq_true_iff]
      refine and_iff_right_of_imp fun hevent => le_antisymm (hmax m hm) ?_
      obtain ⟨m', hm', htime'⟩ := htime row (List.mem_append_right _ List.mem_cons_self)
      exact htime' ▸ hlast m hm hevent m' hm'
    rw [hsurvival row (List.mem_append_right _ List.mem_cons_self), hnone, hall, Nat.zero_add]

end

-- ---------------------------------------------------------------------------
-- The times of a customer
-- ---------------------------------------------------------------------------

theorem horizonOf_pos (config : ImpactConfig) : 0 < horizonOf config := by
  have h := config.outcome.churnHorizonDays_in.1
  rw [horizonOf]
  exact_mod_cast (by omega : 0 < config.outcome.churnHorizonDays)

theorem inDays_nonneg (h : 0 ≤ duration) : 0 ≤ inDays duration :=
  div_nonneg (by exact_mod_cast h) (by norm_num)

theorem inDays_lt (h : duration < timedeltaDays days) : inDays duration < days := by
  rw [timedeltaDays] at h
  rw [inDays, div_lt_iff₀ (by norm_num)]
  exact_mod_cast h

/-- A time within the horizon, which is the horizon itself for whoever does not
come back. -/
structure EventTime.Within (config : ImpactConfig) (time : EventTime) : Prop where
  nonneg : 0 ≤ time.days
  le : time.days ≤ horizonOf config
  churned : time.churned = true ↔ time.days = horizonOf config

theorem windowFilter_some (h : windowFilter (some at_) start stop = true) :
    start ≤ at_ ∧ at_ < stop := of_decide_eq_true h

/-- The next order is one of those after the incident. -/
theorem nextOrder_in {tables : Tables} {config : ImpactConfig}
    (h : ((historyOf tables config customerId).post.filterMap Order.orderedAt).min? = some at_) :
    config.incident.endedAt ≤ at_ ∧
      at_ < config.incident.endedAt + timedeltaDays config.outcome.churnHorizonDays := by
  obtain ⟨order, horder, hat⟩ := List.mem_filterMap.mp (List.min?_mem h)
  have hpost := (List.mem_filter.mp (List.mem_filter.mp horder).1).2
  rw [hat] at hpost
  exact windowFilter_some hpost

theorem controlEvent_within {config : ImpactConfig}
    (h : ∀ at_ ∈ nextOrder, config.incident.endedAt ≤ at_ ∧
      at_ < config.incident.endedAt + timedeltaDays config.outcome.churnHorizonDays) :
    (controlEvent config nextOrder).Within config := by
  cases nextOrder with
  | none => exact ⟨(horizonOf_pos config).le, le_rfl, iff_of_true rfl rfl⟩
  | some at_ =>
    obtain ⟨hafter, hbefore⟩ := h at_ rfl
    have hlt : inDays (at_ - config.incident.endedAt) < horizonOf config :=
      inDays_lt (sub_lt_iff_lt_add'.mpr hbefore)
    have hmin : (controlEvent config (some at_)).days = inDays (at_ - config.incident.endedAt) :=
      min_eq_left hlt.le
    constructor
    case nonneg => exact hmin ▸ inDays_nonneg (sub_nonneg.mpr hafter)
    case le => exact hmin ▸ hlt.le
    case churned => exact iff_of_false nofun (hmin ▸ hlt.ne)

section
variable [Digest]

theorem treatedEvent_within {config : ImpactConfig} {control : EventTime}
    (h : control.Within config) : (treatedEvent config customerId control).Within config ∧
      (control.churned = true → (treatedEvent config customerId control).churned = true) := by
  simp only [treatedEvent]
  split
  case isTrue => exact ⟨⟨(horizonOf_pos config).le, le_rfl, iff_of_true rfl rfl⟩, fun _ => rfl⟩
  case isFalse =>
    split
    case isTrue hchurned => exact ⟨h, fun _ => hchurned⟩
    case isFalse hstays =>
      refine ⟨⟨?_, min_le_left _ _, ?_⟩, fun hchurned => absurd hchurned hstays⟩
      · exact le_min (horizonOf_pos config).le (add_nonneg h.nonneg (Nat.cast_nonneg _))
      · rw [decide_eq_true_iff]
        exact ⟨fun hle => le_antisymm (min_le_left _ _) hle, ge_of_eq⟩

theorem treatedOf_within {config : ImpactConfig} {control : EventTime}
    (h : control.Within config) (customerId : String) (applied : Bool) :
    (if applied then treatedEvent config customerId control else control).Within config ∧
      (control.churned = true →
        (if applied then treatedEvent config customerId control else control).churned = true) := by
  cases applied with
  | true => exact treatedEvent_within h
  | false => exact ⟨h, id⟩

/-- What the times in a customer's row say of each other. -/
structure TimesAgree (config : ImpactConfig) (row : CustomerFeatures) : Prop where
  control : (EventTime.mk row.controlEventDays row.controlChurned).Within config
  treated : (EventTime.mk row.treatedEventDays row.treatedChurned).Within config
  observed : (EventTime.mk row.observedEventDays row.churned).Within config
  event : row.eventObserved = !row.churned
  worse : row.controlChurned = true → row.treatedChurned = true

theorem featureRow_times {tables : Tables} {config : ImpactConfig} {exposure : Exposure}
    (h : featureRow tables config exposure customer = .ok (some row)) : TimesAgree config row := by
  simp only [featureRow] at h
  split at h
  case isTrue => exact absurd (pure_eq_ok.mp h) nofun
  case isFalse =>
    obtain ⟨createdAt, -, h⟩ := bind_eq_ok.mp h
    obtain rfl := Option.some.inj (pure_eq_ok.mp h)
    have hcontrol : (controlEvent config ((historyOf tables config customer.customerId).post.filterMap
        Order.orderedAt).min?).Within config := controlEvent_within fun _ => nextOrder_in
    have htreated := treatedOf_within hcontrol customer.customerId
    constructor
    case control => exact hcontrol
    case treated => exact (htreated _).1
    case observed =>
      by_cases hexposed : decide (config.incident.minimumInteractions ≤
          exposure.counts customer.customerId) = true
      · simp only [if_pos hexposed]
        exact (htreated _).1
      · simp only [if_neg hexposed]
        exact hcontrol
    case event => rfl
    case worse => exact (htreated _).2

theorem mem_customerFeatures {tables : Tables} {config : ImpactConfig}
    (h : customerFeatures tables config = .ok (features, failures, loss)) :
    features ≠ [] ∧ ∀ row ∈ features, TimesAgree config row := by
  obtain ⟨rows, hrows, h⟩ := bind_eq_ok.mp h
  obtain ⟨_, hempty, h⟩ := bind_eq_ok.mp h
  obtain ⟨rfl, -, -⟩ : byKey CustomerFeatures.customerId (rows.filterMap id) = features ∧ _ ∧ _ := by
    simpa only [Prod.mk.injEq] using pure_eq_ok.mp h
  constructor
  · intro hnone
    have hlength := (Sorted.byKey_perm CustomerFeatures.customerId (rows.filterMap id)).length_eq
    rw [hnone, List.length_nil] at hlength
    exact raiseIf_ok.mp hempty (List.length_eq_zero_iff.mp hlength.symm)
  · intro row hrow
    obtain ⟨found, hfound, hsome⟩ := List.mem_filterMap.mp (Sorted.mem_byKey.mp hrow)
    obtain ⟨customer, -, hcustomer⟩ := (Checks.mapM_mem hrows).mp hfound
    exact featureRow_times (hcustomer.trans (congrArg Except.ok hsome))

end

/-- The effect that the benchmark put in does not bring anybody back. -/
theorem trueAtt_nonneg {features : List CustomerFeatures}
    (h : ∀ row ∈ features, row.controlChurned = true → row.treatedChurned = true) :
    0 ≤ trueAtt features := by
  rw [trueAtt, columnMean]
  split
  case isTrue => exact le_rfl
  case isFalse =>
    refine div_nonneg (List.sum_nonneg fun difference hmem => ?_) (Nat.cast_nonneg _)
    obtain ⟨cell, hcell, hsome⟩ := List.mem_filterMap.mp hmem
    obtain ⟨row, hrow, rfl⟩ := List.mem_map.mp hcell
    obtain rfl := Option.some.inj hsome
    rw [sub_nonneg, Nat.cast_le]
    have hworse := h row (List.mem_filter.mp hrow).1
    cases hcontrol : row.controlChurned with
    | false => exact Nat.zero_le _
    | true => rw [hworse hcontrol]

-- ---------------------------------------------------------------------------
-- The survival table
-- ---------------------------------------------------------------------------

theorem membersOf_censoredLast {config : ImpactConfig} {features : List CustomerFeatures}
    (h : ∀ row ∈ features, TimesAgree config row) (group : Group) :
    CensoredLast (membersOf features group) := by
  intro m hm hevent m' hm'
  obtain ⟨row, hrow, rfl⟩ := List.mem_map.mp hm
  obtain ⟨row', hrow', rfl⟩ := List.mem_map.mp hm'
  have hagree := h row (List.mem_filter.mp hrow).1
  have hchurned : row.churned = true := by
    have hnot : (!row.churned) = false := hagree.event ▸ hevent
    rwa [Bool.not_eq_false'] at hnot
  have hhorizon : row.observedEventDays = horizonOf config := hagree.observed.churned.mp hchurned
  have hle := (h row' (List.mem_filter.mp hrow').1).observed.le
  exact hle.trans_eq hhorizon.symm

theorem membersOf_unobserved {config : ImpactConfig} {features : List CustomerFeatures}
    (h : ∀ row ∈ features, TimesAgree config row) (group : Group) :
    (membersOf features group).countP (fun m => m.event = false) =
      (features.filter group.holds).countP (fun row => row.churned) := by
  rw [membersOf, List.countP_map]
  refine List.countP_congr fun row hrow => ?_
  have hevent := (h row (List.mem_filter.mp hrow).1).event
  rw [Function.comp_apply, decide_eq_true_iff, hevent, Bool.not_eq_false']

section
variable [IntervalMath]

/-- The rows of a group in the table. -/
def curveOf (rows : List SurvivalRow) (group : Group) : List SurvivalPoint :=
  (rows.filter fun row => row.group = group).map SurvivalRow.point

omit [IntervalMath] in
theorem groupName_injective : Function.Injective Group.name := by
  intro a b h
  cases a <;> cases b <;> first | rfl | exact absurd h (by decide)

theorem groupRows_group (h : row ∈ groupRows features config group) : row.group = group := by
  obtain ⟨point, -, rfl⟩ := List.mem_map.mp h
  rfl

theorem filter_groupRows (features : List CustomerFeatures) (config : ImpactConfig)
    (group other : Group) :
    (groupRows features config other).filter (fun row => row.group = group) =
      if other = group then groupRows features config group else [] := by
  split
  case isTrue heq =>
    subst heq
    exact List.filter_eq_self.mpr fun row hrow => decide_eq_true (groupRows_group hrow)
  case isFalse hne =>
    refine List.filter_eq_nil_iff.mpr fun row hrow h => hne ?_
    rw [← groupRows_group hrow]
    exact of_decide_eq_true h

/-- The table holds each group's curve. -/
theorem buildSurvival_curves {features : List CustomerFeatures} (config : ImpactConfig)
    (hfeatures : features ≠ [])
    (h : ∀ group, Reconciles (membersOf features group)
      (kaplanMeier (membersOf features group) config.causal.confidenceLevel)) :
    ∃ rows, buildSurvival features config = .ok rows ∧ ∀ group, curveOf rows group =
      kaplanMeier (membersOf features group) config.causal.confidenceLevel := by
  let key (row : SurvivalRow) := toLex (row.group.name, row.point.timeDays)
  have hrows : ∀ group, Strict key (groupRows features config group) := by
    intro group
    refine List.pairwise_map.mpr ((h group).times.imp fun hlt => ?_)
    exact Prod.Lex.toLex_lt_toLex.mpr (.inr ⟨rfl, hlt⟩)
  have hnodup : (([Group.exposed, .control, .overall].flatMap
      (groupRows features config)).map key).Nodup := by
    rw [List.map_flatMap, List.nodup_flatMap]
    refine ⟨fun group _ => (hrows group).nodup, ?_⟩
    have hgroups : [Group.exposed, .control, .overall].Nodup := by decide
    refine hgroups.imp fun hne name hleft hright => hne ?_
    obtain ⟨row, hrow, rfl⟩ := List.mem_map.mp hleft
    obtain ⟨row', hrow', heq⟩ := List.mem_map.mp hright
    have hname := congrArg (fun k => (ofLex k).1) heq
    rw [← groupRows_group hrow, ← groupRows_group hrow']
    exact (groupName_injective hname).symm
  refine ⟨byKey key ([Group.exposed, .control, .overall].flatMap (groupRows features config)),
    ?_, ?_⟩
  rotate_left
  · intro group
    rw [curveOf, Sorted.filter_byKey hnodup, List.filter_flatMap]
    have hgroup : ([Group.exposed, .control, .overall].flatMap fun other =>
        (groupRows features config other).filter fun row => row.group = group) =
        groupRows features config group := by
      simp only [filter_groupRows]
      cases group <;> simp
    rw [hgroup, (hrows group).byKey_eq, groupRows, List.map_map]
    exact List.map_id _
  · refine bind_eq_ok.mpr ⟨(), raiseIf_ok.mpr fun hnone => ?_, rfl⟩
    obtain ⟨row, hrow⟩ := List.exists_mem_of_ne_nil _ hfeatures
    have hmember : (Followed.mk row.observedEventDays row.eventObserved) ∈
        membersOf features .overall :=
      List.mem_map_of_mem (List.mem_filter.mpr ⟨hrow, rfl⟩)
    obtain ⟨point, hpoint, -⟩ := ((h .overall).durations _).mpr ⟨_, hmember, rfl⟩
    have hmem : SurvivalRow.mk .overall point ∈ [Group.exposed, .control, .overall].flatMap
        (groupRows features config) :=
      List.mem_flatMap.mpr ⟨.overall, by decide, List.mem_map_of_mem hpoint⟩
    exact absurd (hnone ▸ hmem) List.not_mem_nil

/-- The times of the customers are within the horizon and agree with who has
churned, and the curve of each group reconciles with its customers. -/
theorem survival_reconciles [Digest] {tables : Tables} {config : ImpactConfig}
    (h : customerFeatures tables config = .ok (features, failures, loss)) :
    (∀ row ∈ features, TimesAgree config row) ∧ 0 ≤ trueAtt features ∧
    ∃ rows, buildSurvival features config = .ok rows ∧ ∀ group,
      Reconciles (membersOf features group) (curveOf rows group) ∧
      ∀ point ∈ (curveOf rows group).getLast?, point.survivalProbability =
        ((features.filter group.holds).countP (fun row => row.churned) : Rat) /
          (features.filter group.holds).length := by
  obtain ⟨hne, hagree⟩ := mem_customerFeatures h
  have hcurves := fun group =>
    kaplanMeier_reconciles (membersOf_censoredLast hagree group) config.causal.confidenceLevel
  refine ⟨hagree, trueAtt_nonneg fun row hrow => (hagree row hrow).worse, ?_⟩
  obtain ⟨rows, hrows, hcurve⟩ := buildSurvival_curves config hne hcurves
  refine ⟨rows, hrows, fun group => ?_⟩
  rw [hcurve]
  refine ⟨hcurves group, fun point hpoint => ?_⟩
  have hlength : (membersOf features group).length = (features.filter group.holds).length :=
    List.length_map _
  rw [(hcurves group).last point hpoint, membersOf_unobserved hagree, hlength]

end

namespace Sample

instance : Digest where
  head _ := 0

instance : IntervalMath where
  sqrt variance := variance
  ppf _ := 2

/-- An incident of an hour in the payments. -/
def config : ImpactConfig where
  incident :=
    { family := .paymentDecline
      startedAt := timedeltaDays 100
      endedAt := timedeltaDays 100 + 3600000000
      region := none
      device := none
      minimumInteractions := 1
      region_nonEmpty := nofun
      device_nonEmpty := nofun
      minimumInteractions_ge := le_rfl
      window := by decide }
  outcome :=
    { churnHorizonDays := 60
      prePeriodDays := 45
      ltvHorizonDays := 180
      minimumPreOrders := 0
      churnHorizonDays_in := by decide
      prePeriodDays_in := by decide
      ltvHorizonDays_in := by decide }
  benchmarkEffect :=
    { enabled := true
      delayDays := 18
      censorProbability := 0
      seed := 1
      delayDays_le := by decide
      censorProbability_in := by decide +kernel }
  causal :=
    { propensityCaliper := 1 / 5
      propensityClip := 1 / 50
      confidenceLevel := 19 / 20
      propensityCaliper_in := by decide +kernel
      propensityClip_in := by decide +kernel
      confidenceLevel_in := by decide +kernel }
  observationWindow := by decide

/-- Two customers who come back within the horizon, of whom one met the
incident and comes late, and one who does not come back. -/
def tables : Tables where
  customers := ["a", "b", "c"].map fun id => ⟨id, some 0, none, none⟩
  orders :=
    [⟨"1", "a", some (timedeltaDays 150), none, none, none⟩,
      ⟨"2", "b", some (timedeltaDays 110), none, none, none⟩]
  checkoutSessions := []
  paymentAttempts := [⟨"a", some (timedeltaDays 100), some 5, some false⟩]
  shipments := []
  returns := []
  refunds := []
  orderItems := []
  products := []

def features : List CustomerFeatures :=
  match customerFeatures tables config with
  | .ok (features, _) => features
  | .error _ => []

theorem survival_reconciles_sample :
    features.map CustomerFeatures.churned = [true, false, true] ∧
    ∃ rows, buildSurvival features config = .ok rows ∧
      ∀ point ∈ (curveOf rows .overall).getLast?, point.survivalProbability = 2 / 3 := by
  have hfeatures : customerFeatures tables config = .ok (features, 1, 5) := by decide +kernel
  obtain ⟨-, -, rows, hrows, hcurves⟩ := survival_reconciles hfeatures
  refine ⟨by decide +kernel, rows, hrows, fun point hpoint => ?_⟩
  rw [(hcurves .overall).2 point hpoint]
  decide +kernel

end Sample

end Paic.Impact
