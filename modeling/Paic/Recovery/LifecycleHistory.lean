import Paic.Recovery.Sample

/-!
# The lifecycle and its history

What the lifecycle says after a list of reports, in terms of the list alone:
`Reopened` is decided by the first regression after a recovery that is severe
or sustained. `lifecycle_history` says that the transitions compute it.
-/

namespace Paic.Recovery

-- ---------------------------------------------------------------------------
-- What a list of reports says
-- ---------------------------------------------------------------------------

def EverRecovered (reports : List RecoveryReport) : Prop :=
  ∃ r ∈ reports, r.decision = .recovered

/-- The regressions after the last recovery. -/
def regressions (reports : List RecoveryReport) : Nat :=
  ((reports.reverse.takeWhile (·.decision ≠ .recovered)).filter fun r => Regresses r).length

/-- The report after the others reopens the incident, unless it is open
again already. -/
structure Reopens (config : RecoveryConfig) (earlier : List RecoveryReport) (r : RecoveryReport) :
    Prop where
  regresses : Regresses r
  recovered : EverRecovered earlier
  cause : r.severeGuardrailBreach = true ∧ config.immediateReopenOnSevereGuardrail = true ∨
    config.reopenAfterConsecutiveFailures ≤ regressions (earlier ++ [r])

/-- Some report was the first to reopen the incident. -/
def Reopened (config : RecoveryConfig) (reports : List RecoveryReport) : Prop :=
  ∃ earlier r rest, reports = earlier ++ r :: rest ∧ Reopens config earlier r ∧
    ∀ earlier' r' rest', earlier = earlier' ++ r' :: rest' → ¬ Reopens config earlier' r'

/-- The last report that is more than a gap in the evidence. -/
def lastEvidence (reports : List RecoveryReport) : Option RecoveryReport :=
  reports.reverse.find? (·.decision ≠ .insufficientData)

/-- The last evidence is a recovery. -/
def Recovering (reports : List RecoveryReport) : Prop :=
  ∃ r, lastEvidence reports = some r ∧ r.decision = .recovered

-- ---------------------------------------------------------------------------
-- One more report
-- ---------------------------------------------------------------------------

theorem everRecovered_snoc :
    EverRecovered (reports ++ [r]) ↔ EverRecovered reports ∨ r.decision = .recovered := by
  simp [EverRecovered, or_and_right, exists_or]

theorem regressions_snoc_recovered (h : r.decision = .recovered) :
    regressions (reports ++ [r]) = 0 := by simp [regressions, h]

theorem regressions_snoc_gap (h : r.decision = .insufficientData) :
    regressions (reports ++ [r]) = regressions reports := by simp [regressions, Regresses, h]

theorem regressions_snoc (h : Regresses r) :
    regressions (reports ++ [r]) = regressions reports + 1 := by
  have hne : r.decision ≠ .recovered := by rcases h with h | h <;> simp [h]
  simp [regressions, hne, h]

theorem recovering_snoc_gap (h : r.decision = .insufficientData) :
    Recovering (reports ++ [r]) ↔ Recovering reports := by simp [Recovering, lastEvidence, h]

theorem recovering_snoc (h : r.decision ≠ .insufficientData) :
    Recovering (reports ++ [r]) ↔ r.decision = .recovered := by
  simp [Recovering, lastEvidence, h]

/-- The first of the reports that reopen is among them. -/
theorem reopened_iff : Reopened config reports ↔
    ∃ earlier r rest, reports = earlier ++ r :: rest ∧ Reopens config earlier r := by
  constructor
  · rintro ⟨earlier, r, rest, hsplit, hr, -⟩
    exact ⟨earlier, r, rest, hsplit, hr⟩
  · rintro ⟨earlier, r, rest, hsplit, hr⟩
    induction hn : earlier.length using Nat.strong_induction_on generalizing earlier r rest with
    | _ n ih =>
      by_cases hfirst : ∃ earlier' r' rest', earlier = earlier' ++ r' :: rest' ∧
          Reopens config earlier' r'
      · obtain ⟨earlier', r', rest', rfl, hr'⟩ := hfirst
        refine ih earlier'.length ?_ earlier' r' (rest' ++ r :: rest) (by simp [hsplit]) hr' rfl
        simp only [List.length_append, List.length_cons] at hn
        omega
      · exact ⟨earlier, r, rest, hsplit, hr, fun e r' t he hr' => hfirst ⟨e, r', t, he, hr'⟩⟩

theorem reopened_snoc :
    Reopened config (reports ++ [r]) ↔ Reopened config reports ∨ Reopens config reports r := by
  rw [reopened_iff, reopened_iff]
  constructor
  · rintro ⟨earlier, r', rest, hsplit, hr⟩
    rcases List.eq_nil_or_concat rest with rfl | ⟨init, last, rfl⟩
    · obtain ⟨rfl, hlast⟩ := List.append_inj' hsplit rfl
      obtain rfl := List.singleton_inj.mp hlast
      exact .inr hr
    · rw [List.concat_eq_append, ← List.cons_append, ← List.append_assoc] at hsplit
      obtain ⟨rfl, -⟩ := List.append_inj' hsplit rfl
      exact .inl ⟨earlier, r', init, rfl, hr⟩
  · rintro (⟨earlier, r', rest, rfl, hr⟩ | hr)
    · exact ⟨earlier, r', rest ++ [r], by simp, hr⟩
    · exact ⟨reports, r, [], rfl, hr⟩

theorem not_reopened_nil : ¬ Reopened config [] := by
  rw [reopened_iff]
  rintro ⟨earlier, r, rest, hsplit, -⟩
  simp at hsplit

-- ---------------------------------------------------------------------------
-- The lifecycle
-- ---------------------------------------------------------------------------

section
variable [Hashing]

/-- The reports are accepted one after the other, and lead to the state. -/
inductive Accepted (config : RecoveryConfig) (s₀ : RecoveryLifecycleState) :
    List RecoveryReport → RecoveryLifecycleState → Prop where
  | start : Accepted config s₀ [] s₀
  | report (h : Accepted config s₀ reports s)
      (ht : transitionState s r config = .ok (s', trigger)) :
      Accepted config s₀ (reports ++ [r]) s'

/-- The state says what the reports say. -/
structure History (config : RecoveryConfig) (reports : List RecoveryReport)
    (s : RecoveryLifecycleState) : Prop where
  everRecovered : s.everRecovered = true ↔ EverRecovered reports
  reopened : s.status = .reopened ↔ Reopened config reports
  recovered : s.status = .recovered ↔ ¬ Reopened config reports ∧ Recovering reports
  monitoring : s.status = .monitoring ↔ ¬ Reopened config reports ∧ ¬ Recovering reports
  generation : s.generation = reports.length
  applied : s.appliedReportSha256s = reports.map RecoveryReport.reportSha256
  distinct : (reports.map RecoveryReport.reportSha256).Nodup
  increasing : (reports.map fun r => r.evaluatedAt.instant).Pairwise (· < ·)

/-- With what the next transition reads beside it. -/
structure Tracked (config : RecoveryConfig) (s₀ : RecoveryLifecycleState)
    (reports : List RecoveryReport) (s : RecoveryLifecycleState) : Prop where
  history : History config reports s
  counter : s.status ≠ .reopened → s.everRecovered = true →
    s.consecutiveFailedEvaluations = regressions reports
  lastEvaluatedAt : s.lastEvaluatedAt = reports.getLast?.map RecoveryReport.evaluatedAt
  recoveryId : s.recoveryId = s₀.recoveryId
  incidentId : s.incidentId = s₀.incidentId
  executionReceiptSha256 : s.executionReceiptSha256 = s₀.executionReceiptSha256
  executionManifestSha256 : s.executionManifestSha256 = s₀.executionManifestSha256
  configSha256 : s.configSha256 = s₀.configSha256

theorem initialState_tracked : Tracked config (initialState config receipt manifest) []
    (initialState config receipt manifest) := by
  refine ⟨⟨?_, ?_, ?_, ?_, rfl, rfl, List.nodup_nil, List.Pairwise.nil⟩, ?_, rfl, rfl, rfl, rfl,
    rfl, rfl⟩
  · simp [initialState, EverRecovered]
  · simp [initialState, not_reopened_nil]
  · simp [initialState, Recovering, lastEvidence]
  · simp [initialState, Recovering, lastEvidence, not_reopened_nil]
  · simp [initialState]

omit [Hashing] in
/-- A state that is not reopened reads its history off the last report. -/
theorem Tracked.transition_status (h : Tracked config s₀ reports s)
    (hv : (nextState s r config).Valid) :
    ((transition s r config).status = .reopened ↔ Reopened config (reports ++ [r])) ∧
      ((transition s r config).status = .recovered ↔
        ¬ Reopened config (reports ++ [r]) ∧ Recovering (reports ++ [r])) ∧
      ((transition s r config).status ≠ .reopened → (s.everRecovered || r.decision = .recovered) →
        (transition s r config).failures = regressions (reports ++ [r])) := by
  rw [reopened_snoc]
  by_cases hs : s.status = .reopened
  · have hr := h.history.reopened.mp hs
    simp [transition, hs, hr]
  · have hn : ¬ Reopened config reports := fun hr => hs (h.history.reopened.mpr hr)
    have hprevious : s.status = .recovered ↔ Recovering reports :=
      h.history.recovered.trans (and_iff_right hn)
    cases hd : r.decision with
    | recovered =>
      have hno : ¬ Reopens config reports r := fun hr => not_regresses (.inl hd) hr.regresses
      have hgood : Recovering (reports ++ [r]) := (recovering_snoc (by simp [hd])).mpr hd
      simp [transition, hs, hd, hn, hno, hgood, regressions_snoc_recovered hd]
    | insufficientData =>
      have hno : ¬ Reopens config reports r := fun hr => not_regresses (.inr hd) hr.regresses
      rw [recovering_snoc_gap hd, regressions_snoc_gap hd]
      refine ⟨?_, ?_, ?_⟩
      · simp only [transition, hs, ↓reduceIte, hd, hn, hno, or_self, iff_false]
        split <;> simp
      · simp only [transition, hs, ↓reduceIte, hd, hn, hno, or_self, not_false_eq_true, true_and]
        split
        · next h => exact iff_of_true rfl (hprevious.mp h)
        · next h => exact iff_of_false (by rintro ⟨⟩) fun hr => h (hprevious.mpr hr)
      · intro _ hever
        simp only [transition, hs, ↓reduceIte, hd]
        exact h.counter hs (by simpa using hever)
    | failed | recovering =>
      have hreg : Regresses r := by simp [Regresses, hd]
      obtain ⟨hreopened, hmonitoring, hfailures⟩ :=
        transition_regression config hs hreg
      have hnotgood : ¬ Recovering (reports ++ [r]) := by
        rw [recovering_snoc (by simp [hd]), hd]
        rintro ⟨⟩
      -- a lifecycle that never recovered does not take a reopening report
      have hvalid : (transition s r config).status = .reopened → s.everRecovered = true := by
        intro hstatus
        simpa [nextState, hd] using hv.reopened hstatus
      have hcount : s.everRecovered = true → failuresAfter s = regressions (reports ++ [r]) := by
        intro hever
        rw [failuresAfter, if_pos hever, h.counter hs hever, regressions_snoc hreg]
      have htriggers : Triggers s r config ↔ Reopens config reports r := by
        constructor
        · intro ht
          have hever := hvalid (hreopened.mpr ht)
          refine ⟨hreg, h.history.everRecovered.mp hever, ht.imp (by simp) fun ht => ?_⟩
          rw [← hcount hever]
          exact ht.2
        · intro hr
          have hever := h.history.everRecovered.mpr hr.recovered
          refine hr.cause.imp (by simp) fun hc => ⟨hever, ?_⟩
          rwa [hcount hever]
      refine ⟨by rw [hreopened, htriggers]; simp [hn], ?_, ?_⟩
      · refine iff_of_false (fun hrec => ?_) fun hrec => hnotgood hrec.2
        by_cases ht : Triggers s r config
        · rw [hreopened.mpr ht] at hrec
          exact absurd hrec (by rintro ⟨⟩)
        · rw [hmonitoring ht] at hrec
          exact absurd hrec (by rintro ⟨⟩)
      · intro _ hever
        rw [hfailures]
        exact hcount (by simpa [hd] using hever)

theorem Tracked.accept (h : Tracked config s₀ reports s)
    (ht : transitionState s r config = .ok (s', trigger)) :
    Tracked config s₀ (reports ++ [r]) s' := by
  obtain ⟨hbound, hv, rfl, -⟩ := transitionState_ok.mp ht
  obtain ⟨hreopened, hrecovered, hcounter⟩ := h.transition_status hv
  constructor
  case history =>
    constructor
    case everRecovered =>
      rw [everRecovered_snoc, ← h.history.everRecovered]
      simp [nextState]
    case reopened => exact hreopened
    case recovered => exact hrecovered
    case monitoring =>
      have hcases : (nextState s r config).status = .monitoring ↔
          (transition s r config).status ≠ .reopened ∧
            (transition s r config).status ≠ .recovered := by
        show (transition s r config).status = .monitoring ↔ _
        cases (transition s r config).status <;> simp
      rw [hcases, ne_eq, ne_eq, hreopened, hrecovered]
      exact and_congr_right fun hn => by rw [and_iff_right hn]
    case generation => simp [nextState, h.history.generation]
    case applied => simp [nextState, h.history.applied]
    case distinct =>
      rw [List.map_append, List.nodup_append]
      refine ⟨h.history.distinct, List.nodup_singleton _, ?_⟩
      rintro a ha b hb rfl
      rw [List.map_singleton, List.mem_singleton] at hb
      exact hbound.fresh (by rw [h.history.applied, ← hb]; exact ha)
    case increasing =>
      rw [List.map_append, List.pairwise_append]
      refine ⟨h.history.increasing, List.pairwise_singleton _ _, ?_⟩
      intro a ha b hb
      rw [List.map_singleton, List.mem_singleton] at hb
      rw [hb]
      -- the last of the earlier reports is the latest of them
      rcases List.eq_nil_or_concat reports with rfl | ⟨init, last, rfl⟩
      · exact absurd ha List.not_mem_nil
      · have hlast : last.evaluatedAt.instant < r.evaluatedAt.instant :=
          hbound.later _ (by simp [h.lastEvaluatedAt])
        have hinc := h.history.increasing
        rw [List.concat_eq_append, List.map_append, List.pairwise_append] at hinc
        rw [List.concat_eq_append, List.map_append, List.mem_append, List.map_singleton,
          List.mem_singleton] at ha
        rcases ha with ha | rfl
        · exact Int.lt_trans (hinc.2.2 a ha _ (List.mem_singleton_self _)) hlast
        · exact hlast
  case counter => exact hcounter
  case lastEvaluatedAt => simp [nextState]
  case recoveryId => exact h.recoveryId
  case incidentId => exact h.incidentId
  case executionReceiptSha256 => exact h.executionReceiptSha256
  case executionManifestSha256 => exact h.executionManifestSha256
  case configSha256 => exact h.configSha256

theorem Accepted.tracked
    (h : Accepted config (initialState config receipt manifest) reports s) :
    Tracked config (initialState config receipt manifest) reports s := by
  induction h with
  | start => exact initialState_tracked
  | report _ ht ih => exact ih.accept ht

theorem Accepted.valid (h : Accepted config s₀ reports s) (h₀ : s₀.Valid) : s.Valid := by
  induction h with
  | start => exact h₀
  | report _ ht _ =>
    obtain ⟨-, hv, rfl, -⟩ := transitionState_ok.mp ht
    exact hv

/-- The lifecycle says what its reports say; and once it is reopened, it
stays so. -/
theorem lifecycle_history
    (h : Accepted config (initialState config receipt manifest) reports s) :
    History config reports s ∧
      ∀ earlier rest s', reports = earlier ++ rest →
        Accepted config (initialState config receipt manifest) earlier s' →
        s'.status = .reopened → s.status = .reopened := by
  refine ⟨h.tracked.history, ?_⟩
  rintro earlier rest s' rfl h' hs'
  obtain ⟨before_, r, after, rfl, hr⟩ := reopened_iff.mp (h'.tracked.history.reopened.mp hs')
  rw [h.tracked.history.reopened, reopened_iff]
  exact ⟨before_, r, after ++ rest, by simp, hr⟩

end

/-- A recovery and a severe breach. -/
theorem lifecycle_history_sample : ∃ s, s.status = .reopened ∧
    History Sample.config [Sample.report Sample.healthy 15, Sample.report Sample.breach 20] s := by
  obtain ⟨_, hrecovers⟩ := Sample.recovers
  obtain ⟨s, _, hreopens, hstatus⟩ := Sample.reopens
  exact ⟨s, hstatus, (lifecycle_history (Accepted.report (.report .start hrecovers) hreopens)).1⟩

end Paic.Recovery
