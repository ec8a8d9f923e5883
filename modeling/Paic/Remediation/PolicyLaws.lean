import Paic.Remediation.Sample
import Paic.Remediation.StateLaws

/-!
# What an allowed proposal guarantees

`assessProposal_allow` reads an `allow` as the facts the policy checked, one
field each. The policy checks every action against the initial state, the
executor against a state that changes under it; the two agree because no two
actions of an allowed proposal can have the same target.
-/

namespace Paic.Remediation

open Checks

-- ---------------------------------------------------------------------------
-- Reading an allow
-- ---------------------------------------------------------------------------

theorem reasonIf_nil {c : Prop} [Decidable c] : reasonIf c text = [] ↔ ¬ c := by
  unfold reasonIf
  split <;> simp_all

/-- The policy's check of an action is the executor's precondition. -/
theorem validateActionState_none :
    validateActionState a o = none ↔ ∃ r, o = some r ∧ (a.change r).isSome = true := by
  cases o with
  | none => cases a <;> simp [validateActionState]
  | some r =>
    cases a <;> cases r <;>
      simp only [validateActionState, RemediationAction.change, Option.some.injEq,
        exists_eq_left', reduceCtorEq, Option.isSome_none, Bool.false_eq_true] <;>
      grind

structure ActionAllowed (report : InvestigationReport) (state : ControlState)
    (config : RemediationConfig) (a : RemediationAction) : Prop where
  type : a.actionType ∈ config.remediation.allowedActionTypes
  radius : blastOrder a.blastRadius ≤ blastOrder config.remediation.maximumBlastRadius
  observed : a.evidenceIds ⊆ report.observedEvidenceRecordIds
  supported : a.evidenceIds ⊆ allowedEvidence report
  applicable : (actionCommands.result (resourceIndex state) a).isSome = true

structure Allowed (report : InvestigationReport) (state : ControlState)
    (proposal : RemediationProposal) (config : RemediationConfig) : Prop where
  concluded : report.status = .concluded
  reportBound : report.reportSha256 = proposal.investigationReportSha256
  incident : report.incidentId = proposal.incidentId
  stateIncident : state.incidentId = proposal.incidentId
  hypothesis : report.selectedHypothesisId = some proposal.selectedHypothesisId
  selected : ∃ h, selectedHypothesis report = some h ∧
    config.investigationGate.minimumSelectedPosterior ≤ h.posteriorProbability ∧
    config.investigationGate.minimumSupportingEvidence ≤ h.supportingEvidenceIds.length
  confidence : config.investigationGate.minimumConfidence ≤ report.confidence
  margin : config.investigationGate.minimumPosteriorMargin ≤ report.posteriorMargin
  entropy : report.normalizedEntropy ≤ config.investigationGate.maximumNormalizedEntropy
  count : proposal.actions.length ≤ config.remediation.maximumActions
  actions : ∀ a ∈ proposal.actions, ActionAllowed report state config a
  risk : aggregateRisk proposal.actions = .critical → config.remediation.denyCriticalRisk = false

theorem reportReasons_nil : reportReasons report state proposal config = [] ↔
    report.status = .concluded ∧ report.reportSha256 = proposal.investigationReportSha256 ∧
    report.incidentId = proposal.incidentId ∧ state.incidentId = proposal.incidentId ∧
    report.selectedHypothesisId = some proposal.selectedHypothesisId ∧
    (∃ h, selectedHypothesis report = some h ∧
      config.investigationGate.minimumSelectedPosterior ≤ h.posteriorProbability ∧
      config.investigationGate.minimumSupportingEvidence ≤ h.supportingEvidenceIds.length) ∧
    config.investigationGate.minimumConfidence ≤ report.confidence ∧
    config.investigationGate.minimumPosteriorMargin ≤ report.posteriorMargin ∧
    report.normalizedEntropy ≤ config.investigationGate.maximumNormalizedEntropy ∧
    proposal.actions.length ≤ config.remediation.maximumActions := by
  cases hsel : selectedHypothesis report with
  | none => simp [reportReasons, hsel, reasonIf_nil]
  | some h =>
    simp only [reportReasons, hsel, List.append_eq_nil_iff, reasonIf_nil, ne_eq,
      Decidable.not_not, not_or, Nat.not_lt, Rat.not_lt, gt_iff_lt, Option.some.injEq, ↓existsAndEq,
      true_and, and_assoc]

theorem actionReasons_nil :
    actionReasons report state config a = [] ↔ ActionAllowed report state config a := by
  simp only [actionReasons, List.append_eq_nil_iff, reasonIf_nil, Decidable.not_not, not_lt,
    Option.toList_eq_nil_iff, validateActionState_none, and_assoc]
  have happ : (∃ r, resourceIndex state a.resourceId = some r ∧ (a.change r).isSome = true) ↔
      (actionCommands.result (resourceIndex state) a).isSome = true := by
    show _ ↔ ((resourceIndex state a.resourceId).bind a.change).isSome = true
    cases resourceIndex state a.resourceId <;> simp
  rw [happ]
  constructor
  · rintro ⟨h1, h2, h3, h4, h5⟩
    exact ⟨h1, h2, h3, h4, h5⟩
  · rintro ⟨h1, h2, h3, h4, h5⟩
    exact ⟨h1, h2, h3, h4, h5⟩

theorem assessProposal_allow : (assessProposal report state proposal config).outcome = .allow ↔
    Allowed report state proposal config := by
  have hout : (assessProposal report state proposal config).outcome = .allow ↔
      denialReasons report state proposal config = [] := by
    simp only [assessProposal]
    split <;> simp_all
  rw [hout, denialReasons, List.append_eq_nil_iff, List.append_eq_nil_iff, reportReasons_nil,
    List.flatMap_eq_nil_iff, reasonIf_nil]
  constructor
  · rintro ⟨⟨⟨h1, h2, h3, h4, h5, h6, h7, h8, h9, h10⟩, hactions⟩, hrisk⟩
    exact ⟨h1, h2, h3, h4, h5, h6, h7, h8, h9, h10,
      fun a ha => actionReasons_nil.mp (hactions a ha), fun hc => by simpa [hc] using hrisk⟩
  · intro h
    refine ⟨⟨⟨h.concluded, h.reportBound, h.incident, h.stateIncident, h.hypothesis, h.selected,
      h.confidence, h.margin, h.entropy, h.count⟩,
      fun a ha => actionReasons_nil.mpr (h.actions a ha)⟩, ?_⟩
    rintro ⟨hc, hd⟩
    rw [h.risk hc] at hd
    exact absurd hd (by decide)

-- ---------------------------------------------------------------------------
-- The policy and the executor agree
-- ---------------------------------------------------------------------------

/-- The type of the only actions that can change a resource. -/
def ControlResource.actionType : ControlResource → ActionType
  | .deployment _ => .deploymentRollback
  | .featureFlag _ => .featureFlagSet
  | .configuration _ => .configurationRestore

theorem change_actionType {a : RemediationAction} (h : (a.change r).isSome = true) :
    a.actionType = r.actionType := by
  cases a <;> cases r <;> simp_all [RemediationAction.change, RemediationAction.actionType,
    ControlResource.actionType]

/-- Actions that all apply to one state and are unique by type and target are
unique by target: the target decides the type. -/
theorem targets_nodup {m : String → Option ControlResource} {actions : List RemediationAction}
    (hu : (actions.map fun a => (a.actionType, a.resourceId)).Nodup)
    (h : ∀ a ∈ actions, (actionCommands.result m a).isSome = true) :
    (actions.map RemediationAction.resourceId).Nodup := by
  have htype : ∀ a ∈ actions, ∃ r, m a.resourceId = some r ∧ a.actionType = r.actionType := by
    intro a ha
    have happ : ((m a.resourceId).bind a.change).isSome = true := h a ha
    cases hm : m a.resourceId with
    | none => simp [hm] at happ
    | some r => exact ⟨r, rfl, change_actionType (by simpa [hm] using happ)⟩
  refine List.Nodup.map_on (fun a ha b hb he => ?_) (List.Nodup.of_map _ hu)
  obtain ⟨r, hr, hta⟩ := htype a ha
  obtain ⟨r', hr', htb⟩ := htype b hb
  rw [he, hr', Option.some.injEq] at hr
  subst hr
  exact List.inj_on_of_nodup_map hu ha hb (by rw [hta, htb, he])

/-- An allowed proposal's actions run through, in any order, to the same
resources by id. -/
theorem Allowed.run (h : Allowed report state proposal config) (hp : proposal.Valid) :
    (proposal.actions.map RemediationAction.resourceId).Nodup ∧
      ∃ updated, ∀ actions, actions.Perm proposal.actions →
        actionCommands.run (resourceIndex state) actions = some updated := by
  have happ := fun a ha => (h.actions a ha).applicable
  have hn := targets_nodup hp.uniqueTargets happ
  obtain ⟨updated, hrun, -⟩ := Keyed.run_of_results (c := actionCommands) hn happ
  refine ⟨hn, updated, fun actions hperm => ?_⟩
  rw [← Keyed.run_perm (c := actionCommands) hperm.symm hn]
  exact hrun

theorem actions_executable {as : List RemediationAction} (hp : ∀ a ∈ as, a.Valid) :
    (∃ a ∈ as, ¬ a.Executable) → ∃ a ∈ as, 1975 < a.actionId.length := by
  rintro ⟨a, ha, hne⟩
  refine ⟨a, ha, ?_⟩
  by_contra hle
  exact hne ⟨(hp a ha).base.actionId, RemediationAction.inverse_valid (hp a ha) (by omega)⟩

section
variable [Hashing]

/-- For an allowed proposal every action has a resource of its own, and in
every order the loop of `execute_plan` ends in the same resources. The loop
raises no `ExecutionError`; only the justification of an inverse action, which
quotes the action's id, can be too long to validate. -/
theorem allowed_actions_execute (hp : proposal.Valid)
    (h : (assessProposal report state proposal config).outcome = .allow) :
    (proposal.actions.map RemediationAction.resourceId).Nodup ∧
      ∃ resources, ∀ actions, actions.Perm proposal.actions →
        (∀ m, executeActions state actions ≠ .error (.executionError m)) ∧
        ((∃ done, executeActions state actions = .ok done ∧
            inResourceOrder state done.updated = resources) ∨
          (executeActions state actions = .error .valueError ∧
            ∃ a ∈ actions, 1975 < a.actionId.length)) := by
  obtain ⟨hn, updated, hrun⟩ := (assessProposal_allow.mp h).run hp
  refine ⟨hn, inResourceOrder state updated, fun actions hperm => ?_⟩
  have hrun := hrun actions hperm
  rcases loop_executeAction_of_run (p := ⟨resourceIndex state, []⟩) hrun with
    ⟨-, done, hdone, rfl⟩ | ⟨hne, herr⟩
  · have hok : executeActions state actions = .ok done := hdone
    exact ⟨by simp [hok], .inl ⟨done, hok, rfl⟩⟩
  · have herr : executeActions state actions = .error .valueError := herr
    exact ⟨by simp [herr], .inr ⟨herr, actions_executable 
      (fun a ha => hp.actions a (hperm.mem_iff.mp ha)) hne⟩⟩

-- ---------------------------------------------------------------------------
-- Building the plan
-- ---------------------------------------------------------------------------

/-- What `build_plan` validates holds, whatever the policy decided. -/
theorem planDraft_valid (hp : proposal.Valid)
    (hdecision : (assessProposal report state proposal config).Valid)
    (hsources : ∀ h ∈ report.sourceManifestHashes, isSha256 h.2 = true)
    (hreport : isSha256 m₁ = true) (hstate : isSha256 m₂ = true) (hsha : isSha256 sha = true) :
    (planDraft report proposal config (assessProposal report state proposal config) m₁ m₂
      sha).Valid where
  remediationId := hp.remediationId
  incidentId := hp.incidentId
  investigationReportSha256 := hp.investigationReportSha256
  investigationManifestSha256 := hreport
  controlStateManifestSha256 := hstate
  sourceManifestHashes := hsources
  selectedHypothesisId := hp.selectedHypothesisId
  requestedBy := hp.requestedBy
  requestedAt := hp.requestedAt
  expiresAt := hp.requestedAt
  actions := hp.actions
  requiredApprovals := hdecision.requiredApprovals
  policyDecision := hdecision
  proposalSha256 := digest_hex _
  planSha256 := hsha
  window := by
    have := config.approval.planTtl_range.1
    simp only [planDraft, Datetime.addMinutes]
    omega
  status := rfl
  risk := rfl
  approvals := rfl

theorem buildPlan_draft (hp : proposal.Valid)
    (hdecision : (assessProposal report state proposal config).Valid)
    (hsources : ∀ h ∈ report.sourceManifestHashes, isSha256 h.2 = true)
    (hreport : isSha256 m₁ = true) (hstate : isSha256 m₂ = true) :
    let draft := planDraft report proposal config (assessProposal report state proposal config)
      m₁ m₂
    buildPlan report state proposal config m₁ m₂ =
      .ok (draft (digest (.obj (draft zeroHash).unsigned))) := by
  intro draft
  have hvalid : ∀ sha, isSha256 sha = true → (draft sha).Valid := fun sha hsha =>
    planDraft_valid hp hdecision hsources hreport hstate hsha
  simp only [buildPlan, raiseIf_neg (not_not.mpr hdecision), ok_bind]
  exact bind_eq_ok.mpr ⟨_, modelValidate_ok.mpr ⟨hvalid _ zeroHash_isSha256, rfl⟩,
    modelValidate_ok.mpr ⟨hvalid _ (digest_hex _), rfl⟩⟩

end

namespace Sample

theorem report_sources : ∀ h ∈ report.sourceManifestHashes, isSha256 h.2 = true :=
  List.forall_mem_singleton.mpr (sha_hex 1)

theorem base_valid (hid : isIdentifier actionId = true) : (base actionId blastRadius).Valid where
  actionId := hid
  evidenceCount := (by decide : lengthIn ["log-1"] 1 30)
  evidenceIds := (by decide : ∀ e ∈ ["log-1"], isEvidenceRecordId e = true)
  uniqueEvidence := (by decide : ["log-1"].Nodup)
  justification := (by decide : textIn "The flag broke checkout." 1 2000)

theorem proposal_valid : proposal.Valid where
  remediationId := (by decide : isIdentifier "remediation" = true)
  incidentId := (by decide : isIdentifier "incident" = true)
  investigationReportSha256 := sha_hex 2
  selectedHypothesisId := (by decide : isIdentifier "flag" = true)
  requestedBy := (by decide : isIdentifier "carol" = true)
  requestedAt := rfl
  summary := (by decide : textIn "Disable the flag." 1 2000)
  expectedOutcome := (by decide : textIn "Checkout recovers." 1 2000)
  rollbackTrigger := (by decide : textIn "Errors rise." 1 2000)
  actionCount := (by decide : lengthIn [disableFlag, restoreLimits] 1 10)
  actions := List.forall_mem_cons.mpr
    ⟨⟨base_valid (by decide), by decide, by decide⟩, List.forall_mem_singleton.mpr
      ⟨base_valid (by decide), by decide, by decide, by decide, by decide⟩⟩
  uniqueActions := (by decide : ["disable", "restore"].Nodup)
  uniqueTargets := by decide

/-- What the policy says of the proposal. -/
theorem assess_outcome : (assessProposal report state proposal config).outcome.planStatus =
    .awaitingApproval ∧ (assessProposal report state proposal config).Valid := by
  decide +kernel

end Sample

theorem allowed_actions_execute_sample :
    (Sample.proposal.actions.map RemediationAction.resourceId).Nodup ∧
      ∃ resources, ∀ actions, actions.Perm Sample.proposal.actions →
        (∀ m, executeActions Sample.state actions ≠ .error (.executionError m)) ∧
        ((∃ done, executeActions Sample.state actions = .ok done ∧
            inResourceOrder Sample.state done.updated = resources) ∨
          (executeActions Sample.state actions = .error .valueError ∧
            ∃ a ∈ actions, 1975 < a.actionId.length)) :=
  allowed_actions_execute Sample.proposal_valid
    (by decide +kernel : (assessProposal Sample.report Sample.state Sample.proposal
      Sample.config).outcome = .allow)

end Paic.Remediation
