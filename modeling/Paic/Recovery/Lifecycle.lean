import Paic.Recovery.Engine

/-!
# The recovery lifecycle

`transition_state` moves a lifecycle by one report: it is bound to one
remediation execution and one policy, and takes each report once, in the
order of evaluation. `applied` is the state and the event a store writes for
it.
-/

namespace Paic.Recovery

open Checks

variable [Hashing]

/-- What a report does to the status: the new status, the counter of failed
evaluations and the trigger. -/
structure Transition where
  status : LifecycleStatus
  failures : Nat
  trigger : String
  deriving DecidableEq, Repr

/-- The part of `transition_state` that follows the checks. -/
def transition (previous : RecoveryLifecycleState) (report : RecoveryReport)
    (config : RecoveryConfig) : Transition :=
  if previous.status = .reopened then
    ⟨.reopened, previous.consecutiveFailedEvaluations, "incident_already_reopened"⟩
  else match report.decision with
    | .recovered => ⟨.recovered, 0, "recovery_verified"⟩
    | .insufficientData =>
      ⟨if previous.status = .recovered then .recovered else .monitoring,
        previous.consecutiveFailedEvaluations, "recovery_evidence_gap"⟩
    | .failed | .recovering =>
      let failures := if previous.everRecovered then previous.consecutiveFailedEvaluations + 1 else 0
      let severe := report.severeGuardrailBreach && config.immediateReopenOnSevereGuardrail
      let threshold := previous.everRecovered ∧ config.reopenAfterConsecutiveFailures ≤ failures
      if severe = true ∨ threshold then
        ⟨.reopened, failures,
          if severe then "severe_guardrail_regression" else "sustained_recovery_regression"⟩
      else
        ⟨.monitoring, failures,
          if previous.everRecovered then "regression_observed" else "recovery_not_yet_verified"⟩

/-- The state `transition_state` builds. -/
def nextState (previous : RecoveryLifecycleState) (report : RecoveryReport)
    (config : RecoveryConfig) : RecoveryLifecycleState :=
  { recoveryId := previous.recoveryId
    incidentId := previous.incidentId
    executionReceiptSha256 := previous.executionReceiptSha256
    executionManifestSha256 := previous.executionManifestSha256
    configSha256 := previous.configSha256
    generation := previous.generation + 1
    status := (transition previous report config).status
    everRecovered := previous.everRecovered || report.decision = .recovered
    consecutiveFailedEvaluations := (transition previous report config).failures
    appliedReportSha256s := previous.appliedReportSha256s ++ [report.reportSha256]
    lastReportSha256 := some report.reportSha256
    lastEvaluatedAt := some report.evaluatedAt }

/-- `transition_state`: the new state and the trigger. -/
def transitionState (previous : RecoveryLifecycleState) (report : RecoveryReport)
    (config : RecoveryConfig) : Except Error (RecoveryLifecycleState × String) := do
  verifyReport report
  raiseIf (report.incidentId ≠ previous.incidentId)
    (.recoveryStateStoreError "recovery report targets another incident")
  raiseIf (report.executionReceiptSha256 ≠ previous.executionReceiptSha256)
    (.recoveryStateStoreError "recovery report targets another remediation execution")
  raiseIf (report.executionManifestSha256 ≠ previous.executionManifestSha256)
    (.recoveryStateStoreError "recovery report targets another execution manifest")
  raiseIf (report.recoveryId ≠ previous.recoveryId)
    (.recoveryStateStoreError "recovery report targets another recovery policy")
  raiseIf (report.configSha256 ≠ previous.configSha256 ∨ config.digest ≠ previous.configSha256)
    (.recoveryStateStoreError "recovery policy does not match lifecycle binding")
  raiseIf (report.reportSha256 ∈ previous.appliedReportSha256s)
    (.recoveryStateStoreError "recovery report has already been applied")
  raiseIf (∃ t ∈ previous.lastEvaluatedAt, report.evaluatedAt.instant ≤ t.instant)
    (.recoveryStateStoreError "recovery reports must be applied in evaluation-time order")
  raiseIf (¬ Model.Valid (nextState previous report config)) .valueError
  pure (nextState previous report config, (transition previous report config).trigger)

/-- The state of a new store. -/
def initialState (config : RecoveryConfig) (executionReceiptSha256 executionManifestSha256 : String) :
    RecoveryLifecycleState :=
  { recoveryId := config.recoveryId
    incidentId := config.incidentId
    executionReceiptSha256
    executionManifestSha256
    configSha256 := config.digest
    generation := 0
    status := .monitoring
    everRecovered := false
    consecutiveFailedEvaluations := 0
    appliedReportSha256s := []
    lastReportSha256 := none
    lastEvaluatedAt := none }

/-- What `apply` writes: the report with the state and the event it led to. -/
structure Applied where
  report : RecoveryReport
  state : RecoveryLifecycleState
  event : RecoveryLifecycleEvent
  deriving DecidableEq

/-- The event before its hash is known. -/
def provisionalEvent (previous state : RecoveryLifecycleState) (previousEventSha256 : String)
    (report : RecoveryReport) (trigger : String) : RecoveryLifecycleEvent :=
  { recoveryId := state.recoveryId
    incidentId := state.incidentId
    generation := state.generation
    reportSha256 := report.reportSha256
    configSha256 := state.configSha256
    beforeStateSha256 := digest previous.modelDump
    afterStateSha256 := digest state.modelDump
    previousEventSha256
    fromStatus := previous.status
    toStatus := state.status
    trigger
    evaluatedAt := report.evaluatedAt
    eventSha256 := zeroHash }

/-- The event with its hash. -/
def RecoveryLifecycleEvent.sealed (e : RecoveryLifecycleEvent) : RecoveryLifecycleEvent :=
  { e with eventSha256 := digest (.obj e.unsigned) }

theorem RecoveryLifecycleEvent.sealed_digest (e : RecoveryLifecycleEvent) :
    e.sealed.eventSha256 = digest (.obj e.sealed.unsigned) := rfl

/-- What `apply` computes from the state and the event before. -/
def applyReport (previous : RecoveryLifecycleState) (previousEventSha256 : String)
    (report : RecoveryReport) (config : RecoveryConfig) : Except Error Applied := do
  let (state, trigger) ← transitionState previous report config
  let event := provisionalEvent previous state previousEventSha256 report trigger
  raiseIf (¬ Model.Valid event) .valueError
  pure { report, state, event := event.sealed }

-- ---------------------------------------------------------------------------
-- What a transition needs, and what it does
-- ---------------------------------------------------------------------------

/-- The report belongs to the lifecycle, is new to it and was evaluated later
than every report before. -/
@[mk_iff]
structure Bound (previous : RecoveryLifecycleState) (report : RecoveryReport)
    (config : RecoveryConfig) : Prop where
  verified : verifyReport report = .ok ()
  incidentId : report.incidentId = previous.incidentId
  executionReceiptSha256 : report.executionReceiptSha256 = previous.executionReceiptSha256
  executionManifestSha256 : report.executionManifestSha256 = previous.executionManifestSha256
  recoveryId : report.recoveryId = previous.recoveryId
  reportConfig : report.configSha256 = previous.configSha256
  config : config.digest = previous.configSha256
  fresh : report.reportSha256 ∉ previous.appliedReportSha256s
  later : ∀ t ∈ previous.lastEvaluatedAt, t.instant < report.evaluatedAt.instant

theorem transitionState_ok : transitionState previous report config = .ok (state, trigger) ↔
    Bound previous report config ∧ (nextState previous report config).Valid ∧
      state = nextState previous report config ∧
      trigger = (transition previous report config).trigger := by
  simp only [transitionState, bind_eq_ok, raiseIf_ok, pure_eq_ok, exists_and_left, exists_const,
    ne_eq, Decidable.not_not, not_or, bound_iff, Prod.mk.injEq, not_exists, not_and, Int.not_le]
  constructor
  · rintro ⟨_, h1, h2, h3, h4, h5, ⟨h6, h7⟩, h8, h9, hv, rfl, rfl⟩
    exact ⟨⟨h1, h2, h3, h4, h5, h6, h7, h8, h9⟩, hv, rfl, rfl⟩
  · rintro ⟨⟨h1, h2, h3, h4, h5, h6, h7, h8, h9⟩, hv, rfl, rfl⟩
    exact ⟨_, h1, h2, h3, h4, h5, ⟨h6, h7⟩, h8, h9, hv, rfl, rfl⟩

-- ---------------------------------------------------------------------------
-- What a report does to the status
-- ---------------------------------------------------------------------------

/-- The report is evidence against a recovery. -/
def Regresses (r : RecoveryReport) : Prop := r.decision = .failed ∨ r.decision = .recovering

instance (r : RecoveryReport) : Decidable (Regresses r) := by unfold Regresses; infer_instance

omit [Hashing] in
theorem not_regresses (h : r.decision = .recovered ∨ r.decision = .insufficientData) :
    ¬ Regresses r := by rcases h with h | h <;> simp [Regresses, h]

/-- The failed evaluations a regression counts to. -/
def failuresAfter (s : RecoveryLifecycleState) : Nat :=
  if s.everRecovered then s.consecutiveFailedEvaluations + 1 else 0

/-- What makes a regression reopen the incident. -/
def Triggers (s : RecoveryLifecycleState) (r : RecoveryReport) (config : RecoveryConfig) : Prop :=
  (r.severeGuardrailBreach && config.immediateReopenOnSevereGuardrail) = true ∨
    s.everRecovered ∧ config.reopenAfterConsecutiveFailures ≤ failuresAfter s

instance : Decidable (Triggers s r config) := by unfold Triggers; infer_instance

omit [Hashing] in
theorem transition_regression (config : RecoveryConfig) (hs : s.status ≠ .reopened) (hr : Regresses r) :
    ((transition s r config).status = .reopened ↔ Triggers s r config) ∧
      (¬ Triggers s r config → (transition s r config).status = .monitoring) ∧
      (transition s r config).failures = failuresAfter s := by
  have hdec : (transition s r config) = if Triggers s r config then
      ⟨.reopened, failuresAfter s,
        if r.severeGuardrailBreach && config.immediateReopenOnSevereGuardrail then
          "severe_guardrail_regression" else "sustained_recovery_regression"⟩
    else ⟨.monitoring, failuresAfter s,
      if s.everRecovered then "regression_observed" else "recovery_not_yet_verified"⟩ := by
    rcases hr with hr | hr <;> (simp only [transition, hs, hr]; rfl)
  rw [hdec]
  split
  · next h => exact ⟨⟨fun _ => h, fun _ => rfl⟩, fun hn => absurd h hn, rfl⟩
  · next h => exact ⟨⟨fun hn => absurd hn nofun, fun hn => absurd hn h⟩, fun _ => rfl, rfl⟩

omit [Hashing] in
theorem transition_reopened : (transition s r config).status = .reopened ↔
    s.status = .reopened ∨ Regresses r ∧ Triggers s r config := by
  by_cases hs : s.status = .reopened
  · simp [transition, hs]
  · rw [or_iff_right hs]
    by_cases hr : Regresses r
    · rw [(transition_regression config hs hr).1, and_iff_right hr]
    · refine iff_of_false (fun hstatus => ?_) fun h => hr h.1
      cases hd : r.decision with
      | recovered => simp [transition, hs, hd] at hstatus
      | insufficientData =>
        simp only [transition, hs, ↓reduceIte, hd] at hstatus
        split at hstatus <;> exact absurd hstatus nofun
      | failed => exact hr (.inl hd)
      | recovering => exact hr (.inr hd)

omit [Hashing] in
theorem transition_recovered (h : (transition s r config).status = .recovered) :
    s.status = .recovered ∨ r.decision = .recovered := by
  by_cases hs : s.status = .reopened
  · simp [transition, hs] at h
  · cases hd : r.decision with
    | recovered => exact .inr rfl
    | insufficientData =>
      simp only [transition, hs, ↓reduceIte, hd] at h
      split at h
      · next hrec => exact .inl hrec
      · exact absurd h nofun
    | failed | recovering =>
      obtain ⟨hreopened, hmonitoring, -⟩ :=
        transition_regression config hs (show Regresses r by simp [Regresses, hd])
      by_cases ht : Triggers s r config
      · rw [hreopened.mpr ht] at h
        exact absurd h nofun
      · rw [hmonitoring ht] at h
        exact absurd h nofun

/-- The next state is valid unless it reopens what never recovered. -/
theorem nextState_valid_iff (hv : s.Valid) (hb : Bound s r config)
    (hsha : isSha256 r.reportSha256 = true) (haware : r.evaluatedAt.Aware)
    (hroom : s.appliedReportSha256s.length < 10000) :
    (nextState s r config).Valid ↔
      ((transition s r config).status = .reopened →
        s.everRecovered = true ∨ r.decision = .recovered) := by
  constructor
  · intro hvalid hstatus
    simpa [nextState] using hvalid.reopened hstatus
  · intro hreopened
    constructor
    case recoveryId => exact hv.recoveryId
    case incidentId => exact hv.incidentId
    case executionReceiptSha256 => exact hv.executionReceiptSha256
    case executionManifestSha256 => exact hv.executionManifestSha256
    case configSha256 => exact hv.configSha256
    case appliedCount =>
      simp only [nextState, List.length_append, List.length_singleton]
      omega
    case applied =>
      intro sha hmem
      rcases List.mem_append.mp hmem with hmem | hmem
      · exact hv.applied sha hmem
      · rwa [List.mem_singleton.mp hmem]
    case last => rintro sha ⟨⟩; exact hsha
    case lastEvaluatedAt => rintro t ⟨⟩; exact haware
    case unique =>
      rw [show (nextState s r config).appliedReportSha256s =
        s.appliedReportSha256s ++ [r.reportSha256] from rfl, List.nodup_append]
      refine ⟨hv.unique, List.nodup_singleton _, ?_⟩
      rintro a ha b hmem rfl
      exact hb.fresh (List.mem_singleton.mp hmem ▸ ha)
    case lastRequired => intro h; exact absurd h nofun
    case lastFinal => rintro sha ⟨⟩; simp [nextState]
    case recovered =>
      intro hstatus
      rcases transition_recovered hstatus with h | h
      · simp [nextState, hv.recovered h]
      · simp [nextState, h]
    case reopened =>
      intro hstatus
      simpa [nextState] using hreopened hstatus

theorem initialState_valid (hc : config.Valid) (hr : isSha256 receipt = true)
    (hm : isSha256 manifest = true) : (initialState config receipt manifest).Valid where
  recoveryId := hc.recoveryId
  incidentId := hc.incidentId
  executionReceiptSha256 := hr
  executionManifestSha256 := hm
  configSha256 := digest_hex _
  appliedCount := Nat.zero_le _
  applied := fun _ h => absurd h List.not_mem_nil
  last := fun _ h => absurd h nofun
  lastEvaluatedAt := fun _ h => absurd h nofun
  unique := List.nodup_nil
  lastRequired := fun _ => rfl
  lastFinal := fun _ h => absurd h nofun
  recovered := fun h => absurd h nofun
  reopened := fun h => absurd h nofun

/-- A bound report is taken unless it reopens what never recovered. -/
theorem transitionState_defined_iff (hv : s.Valid) (hb : Bound s r config)
    (hsha : isSha256 r.reportSha256 = true) (haware : r.evaluatedAt.Aware)
    (hroom : s.appliedReportSha256s.length < 10000) :
    (∃ next, transitionState s r config = .ok next) ↔
      ((transition s r config).status = .reopened →
        s.everRecovered = true ∨ r.decision = .recovered) := by
  rw [← nextState_valid_iff hv hb hsha haware hroom]
  constructor
  · rintro ⟨⟨s', trigger⟩, hok⟩
    exact (transitionState_ok.mp hok).2.1
  · intro hvalid
    exact ⟨(_, _), transitionState_ok.mpr ⟨hb, hvalid, rfl, rfl⟩⟩

end Paic.Recovery
