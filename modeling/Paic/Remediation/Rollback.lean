import Paic.Remediation.ExecutorLaws
import Mathlib

/-!
# Rollback

The rollback of an executed plan is a proposal like any other: the policy
that allowed the plan allows it, at the same risk and with the same number of
approvals, and executing it puts the resources back. So does the rollback of
a rollback. `Moves` is the relation between two states that makes these
arguments one: the actions lead from the resources of one to the resources of
the other.
-/

namespace Paic.Remediation

open Checks

-- ---------------------------------------------------------------------------
-- Risk does not depend on order or direction
-- ---------------------------------------------------------------------------

theorem riskOrder_injective (h : riskOrder a = riskOrder b) : a = b := by
  cases a <;> cases b <;> first | rfl | simp [riskOrder] at h

theorem actionRisk_inverse (a : RemediationAction) : actionRisk a.inverse = actionRisk a := by
  simp [actionRisk]

/-- The aggregate is a maximum of numbers. -/
theorem riskOrder_aggregateRisk (as : List RemediationAction) :
    riskOrder (aggregateRisk as) = (as.map fun a => riskOrder (actionRisk a)).foldl max 0 := by
  have key : ∀ risk : RiskLevel,
      riskOrder (as.foldl (fun risk a =>
        if riskOrder risk < riskOrder (actionRisk a) then actionRisk a else risk) risk) =
      (as.map fun a => riskOrder (actionRisk a)).foldl max (riskOrder risk) := by
    induction as with
    | nil => intro risk; rfl
    | cons a as ih =>
      intro risk
      rw [List.foldl_cons, List.map_cons, List.foldl_cons, ih]
      congr 1
      split <;> omega
  exact key .low

theorem aggregateRisk_perm {as bs : List RemediationAction} (h : as.Perm bs) :
    aggregateRisk as = aggregateRisk bs := by
  apply riskOrder_injective
  rw [riskOrder_aggregateRisk, riskOrder_aggregateRisk]
  exact (h.map _).foldl_eq 0

theorem aggregateRisk_inverse (as : List RemediationAction) :
    aggregateRisk (as.map RemediationAction.inverse).reverse = aggregateRisk as := by
  rw [aggregateRisk_perm (List.reverse_perm _)]
  apply riskOrder_injective
  rw [riskOrder_aggregateRisk, riskOrder_aggregateRisk, List.map_map]
  simp only [Function.comp_def, actionRisk_inverse]

-- ---------------------------------------------------------------------------
-- Moves
-- ---------------------------------------------------------------------------

/-- The actions lead from the resources of `s` to those of `s'`, which have
the same ids in the same order. -/
structure Moves (s s' : ControlState) (actions : List RemediationAction) : Prop where
  ids : s'.resourceIds = s.resourceIds
  nodup : s.resourceIds.Nodup
  current : ∀ k r, resourceIndex s k = some r → r.Current
  run : actionCommands.run (resourceIndex s) actions = some (resourceIndex s')

/-- The inverse actions in reverse order move back. -/
theorem Moves.reverse (h : Moves s s' actions) :
    Moves s' s (actions.map RemediationAction.inverse).reverse := by
  obtain ⟨hback, hcur⟩ := actionCommands_inverse.run h.current h.run
  exact ⟨h.ids.symm, h.ids ▸ h.nodup, hcur, hback⟩

/-- Moving ends in the other state's list of resources. -/
theorem Moves.ordered (h : Moves s s' actions) :
    inResourceOrder s (resourceIndex s') = s'.resources := by
  have hs' := inResourceOrder_index (h.ids ▸ h.nodup : s'.resourceIds.Nodup)
  rwa [inResourceOrder, h.ids] at hs'

/-- The same actions lead to the same resources. -/
theorem Moves.resources_eq (h : Moves s s' actions) (h' : Moves s s'' actions) :
    s'.resources = s''.resources := by
  rw [← h.ordered, ← h'.ordered, Option.some.inj (h.run.symm.trans h'.run)]

theorem inverse_executable {a : RemediationAction} (h : a.Executable)
    (hlen : a.actionId.length ≤ 1960) : a.inverse.Executable := by
  refine ⟨h.2.base.actionId, RemediationAction.inverse_valid h.2 ?_⟩
  rw [RemediationAction.inverse_actionId, String.length_append]
  have : "reverse-".length = 8 := by decide
  omega

theorem inverses_executable {as : List RemediationAction} (h : ∀ a ∈ as, a.Executable)
    (hlen : ∀ a ∈ as, a.actionId.length ≤ 1960) :
    ∀ a ∈ (as.map RemediationAction.inverse).reverse, a.Executable := by
  intro b hb
  simp only [List.mem_reverse, List.mem_map] at hb
  obtain ⟨a, ha, rfl⟩ := hb
  exact inverse_executable (h a ha) (hlen a ha)

theorem inverse_actionIds_nodup {as : List RemediationAction}
    (h : (as.map RemediationAction.actionId).Nodup) :
    (as.map fun a => a.inverse.actionId).Nodup := by
  have hmap : (as.map fun a => a.inverse.actionId) =
      (as.map RemediationAction.actionId).map ("reverse-" ++ ·) := by
    simp only [List.map_map, Function.comp_def, RemediationAction.inverse_actionId]
  rw [hmap]
  refine h.map fun a b hab => ?_
  have := congrArg String.toList hab
  simp only [String.toList_append, List.append_cancel_left_eq] at this
  exact String.toList_inj.mp this

/-- The policy that allowed a proposal allows a rollback of it, against the
state the rollback starts from. -/
theorem Allowed.rollback {rollback : RemediationProposal} (h : Allowed report s proposal config)
    (hmoves : Moves s s' proposal.actions) (hn : (proposal.actions.map
      RemediationAction.resourceId).Nodup)
    (hinc : s'.incidentId = s.incidentId)
    (hactions : rollback.actions = (proposal.actions.map RemediationAction.inverse).reverse)
    (hincident : rollback.incidentId = proposal.incidentId)
    (hreport : rollback.investigationReportSha256 = proposal.investigationReportSha256)
    (hhyp : rollback.selectedHypothesisId = proposal.selectedHypothesisId) :
    Allowed report s' rollback config where
  concluded := h.concluded
  reportBound := hreport ▸ h.reportBound
  incident := hincident ▸ h.incident
  stateIncident := by rw [hinc, h.stateIncident, hincident]
  hypothesis := hhyp ▸ h.hypothesis
  selected := h.selected
  confidence := h.confidence
  margin := h.margin
  entropy := h.entropy
  count := by simpa [hactions] using h.count
  actions := by
    have hback := hmoves.reverse.run
    have hkeys : ((proposal.actions.map RemediationAction.inverse).reverse.map
        actionCommands.key).Nodup := by
      rw [List.map_reverse, List.nodup_reverse, List.map_map]
      simpa [Function.comp_def, actionCommands] using hn
    intro b hb
    rw [hactions] at hb
    obtain ⟨r, hr, -⟩ := Keyed.results_of_run hkeys hback b hb
    simp only [List.mem_reverse, List.mem_map] at hb
    obtain ⟨a, ha, rfl⟩ := hb
    have haa := h.actions a ha
    exact ⟨by simpa using haa.type, by simpa using haa.radius, by simpa using haa.observed,
      by simpa using haa.supported, by simp [hr]⟩
  risk := by
    rw [hactions, aggregateRisk_inverse]
    exact h.risk

section
variable [Hashing]

theorem Moves.execute (h : Moves s s' actions) (hexec : ∀ a ∈ actions, a.Executable) :
    ∃ done, executeActions s actions = .ok done ∧ inResourceOrder s done.updated = s'.resources := by
  rcases loop_executeAction_of_run (p := ⟨resourceIndex s, []⟩) h.run with
    ⟨-, done, hdone, hu⟩ | ⟨⟨a, ha, hne⟩, -⟩
  · exact ⟨done, hdone, hu ▸ h.ordered⟩
  · exact absurd (hexec a ha) hne

theorem Moves.of_execution (hs : s.ValidResources) (hdone : executeActions s actions = .ok done)
    (hs' : s'.resources = inResourceOrder s done.updated) :
    Moves s s' actions ∧ s'.ValidResources := by
  have hholds := executeActions_holds hs hdone
  refine ⟨⟨?_, hs.unique, ?_, ?_⟩, inResourceOrder_valid hs.unique hholds hs'⟩
  · rw [ControlState.resourceIds, hs', inResourceOrder_ids hholds]
  · exact fun k r hr => ((resourceIndex_holds hs).valid k r hr).current
  · rw [resourceIndex_ordered hs.unique hholds hs']
    exact (executeActions_ok hdone).1

-- ---------------------------------------------------------------------------
-- Plans and proposals
-- ---------------------------------------------------------------------------

theorem buildPlan_ok (h : buildPlan report state proposal config m₁ m₂ = .ok plan) :
    plan.Valid ∧ (assessProposal report state proposal config).Valid ∧
      ∃ sha, plan = planDraft report proposal config
        (assessProposal report state proposal config) m₁ m₂ sha := by
  simp only [buildPlan, bind_eq_ok, raiseIf_ok, Decidable.not_not, modelValidate_ok] at h
  obtain ⟨-, hd, _, ⟨-, rfl⟩, hv, rfl⟩ := h
  exact ⟨hv, hd, _, rfl⟩

/-- A plan that awaits approval was allowed. -/
theorem buildPlan_allowed (h : buildPlan report state proposal config m₁ m₂ = .ok plan)
    (hs : plan.status = .awaitingApproval) : Allowed report state proposal config := by
  obtain ⟨-, -, sha, rfl⟩ := buildPlan_ok h
  apply assessProposal_allow.mp
  cases hout : (assessProposal report state proposal config).outcome with
  | allow => rfl
  | deny =>
    simp only [planDraft, hout] at hs
    exact absurd hs (by rintro ⟨⟩)

variable [TokenFormat]

/-- What an execution leaves for its rollback. -/
theorem executePlan_moves (hs : s.ValidResources)
    (h : executePlan plan s status config request token secret manifest = .ok (s', receipt)) :
    Moves s s' plan.actions ∧ s'.ValidResources ∧ (∀ a ∈ plan.actions, a.Executable) ∧
      receipt.planSha256 = plan.planSha256 ∧
      receipt.actionReceipts.map ActionExecutionReceipt.inverseAction =
        plan.actions.map RemediationAction.inverse ∧
      ∃ m, s' = stateAfter s plan receipt.tokenNonceSha256 m := by
  obtain ⟨nonce, done, -, hdone, rfl, -, -, rfl⟩ := executePlan_ok.mp h
  obtain ⟨-, hexec, hinv⟩ := executeActions_ok hdone
  have hboth : Moves s (stateAfter s plan nonce done.updated) plan.actions ∧ _ :=
    Moves.of_execution hs hdone rfl
  exact ⟨hboth.1, hboth.2, hexec, rfl, hinv, _, rfl⟩

omit [TokenFormat]

/-- Everything but the actions of a rollback validates with the proposal it
goes back to. -/
theorem rollbackDraft_valid (hp : proposal.Valid)
    (hplan : buildPlan report s proposal config m₁ m₂ = .ok plan)
    (hby : isIdentifier requestedBy = true) (hat : requestedAt.Aware)
    (hlen : plan.remediationId.length ≤ 1950) (hcount : lengthIn actions 1 10)
    (hactions : ∀ a ∈ actions, a.Valid) (hids : (actions.map RemediationAction.actionId).Nodup)
    (htargets : (actions.map fun a => (a.actionType, a.resourceId)).Nodup) :
    (rollbackDraft plan requestedBy requestedAt actions).Valid := by
  obtain ⟨-, -, sha, rfl⟩ := buildPlan_ok hplan
  have hid : isIdentifier (proposal.remediationId ++ "-rollback") = true := by
    have := isIdentifier_join hp.remediationId (b := "rollback") (by decide)
    rwa [String.append_assoc] at this
  have houtcome : textIn "Restore the exact pre-remediation simulated control state." 1 2000 := by
    decide
  have htrigger : textIn "A newly approved rollback plan is executed." 1 2000 := by decide
  refine ⟨hid, hp.incidentId, hp.investigationReportSha256, hp.selectedHypothesisId, hby, hat, ?_,
    houtcome, htrigger, hcount, hactions, hids, htargets⟩
  have h1 : "Rollback executed remediation ".length = 30 := by decide
  have h2 : ".".length = 1 := by decide
  simp only [textIn, rollbackDraft, toString, String.length_append]
  omega

/-- The rollback of a built plan validates, and has the inverse actions in
reverse order. -/
theorem buildRollbackProposal_ok (hp : proposal.Valid)
    (hplan : buildPlan report s proposal config m₁ m₂ = .ok plan)
    (hsha : receipt.planSha256 = plan.planSha256)
    (hinv : receipt.actionReceipts.map ActionExecutionReceipt.inverseAction =
      plan.actions.map RemediationAction.inverse)
    (hexec : ∀ a ∈ plan.actions, a.Executable) (hby : isIdentifier requestedBy = true)
    (hat : requestedAt.Aware) (hlen : plan.remediationId.length ≤ 1950) :
    let rollback := rollbackDraft plan requestedBy requestedAt
      (plan.actions.map RemediationAction.inverse).reverse
    rollback.Valid ∧ buildRollbackProposal plan receipt requestedBy requestedAt = .ok rollback := by
  have hactions : plan.actions = proposal.actions := by
    obtain ⟨-, -, sha, rfl⟩ := buildPlan_ok hplan
    rfl
  have hvalid : (rollbackDraft plan requestedBy requestedAt
      (plan.actions.map RemediationAction.inverse).reverse).Valid := by
    refine rollbackDraft_valid hp hplan hby hat hlen ?_ ?_ ?_ ?_
    · simpa [lengthIn, hactions] using hp.actionCount
    · intro b hb
      simp only [List.mem_reverse, List.mem_map] at hb
      obtain ⟨a, ha, rfl⟩ := hb
      exact (hexec a ha).2
    · rw [List.map_reverse, List.nodup_reverse, List.map_map, hactions]
      exact inverse_actionIds_nodup hp.uniqueActions
    · rw [List.map_reverse, List.nodup_reverse, List.map_map, hactions]
      simpa [Function.comp_def] using hp.uniqueTargets
  refine ⟨hvalid, ?_⟩
  rw [buildRollbackProposal, raiseIf_neg (by simpa using hsha), ok_bind, List.map_reverse, hinv]
  exact modelValidate_ok.mpr ⟨hvalid, rfl⟩

-- ---------------------------------------------------------------------------
-- Rolling back
-- ---------------------------------------------------------------------------

/-- The texts of a rollback, and of a rollback of it, quote the plan's ids. -/
structure ShortTexts (plan : RemediationPlan) : Prop where
  remediationId : plan.remediationId.length ≤ 1900
  actionIds : ∀ a ∈ plan.actions, a.actionId.length ≤ 1900

variable [TokenFormat]

/-- An allowed plan's rollback is allowed at the same risk and with the same
number of approvals, and its actions run through to the resources before the
plan. Whenever the rollback is itself planned and executed, the state differs
from the first only by the appended generation and hashes; and the rollback
of the rollback runs through to the resources after the plan. -/
theorem rollback_restores (hs : s.Valid) (hp : proposal.Valid)
    (hplan : buildPlan report s proposal config m₁ m₂ = .ok plan)
    (hallow : plan.status = .awaitingApproval)
    (hexec : executePlan plan s status config request token secret manifest = .ok (s', receipt))
    (hby : isIdentifier requestedBy = true) (hat : requestedAt.Aware) (hshort : ShortTexts plan) :
    ∃ rollback, buildRollbackProposal plan receipt requestedBy requestedAt = .ok rollback ∧
      (assessProposal report s' rollback config).outcome = .allow ∧
      (assessProposal report s' rollback config).riskLevel = plan.riskLevel ∧
      (assessProposal report s' rollback config).requiredApprovals = plan.requiredApprovals ∧
      (∃ done, executeActions s' rollback.actions = .ok done ∧
        inResourceOrder s' done.updated = s.resources) ∧
      ∀ m₃ m₄ plan₂ status₂ request₂ token₂ secret₂ manifest₂ s'' receipt₂,
        buildPlan report s' rollback config m₃ m₄ = .ok plan₂ →
        executePlan plan₂ s' status₂ config request₂ token₂ secret₂ manifest₂ =
          .ok (s'', receipt₂) →
        s''.resources = s.resources ∧ s''.stateId = s.stateId ∧ s''.incidentId = s.incidentId ∧
        s''.generation = s.generation + 2 ∧
        s''.consumedTokenNonceHashes.Perm (s.consumedTokenNonceHashes ++
          [receipt.tokenNonceSha256, receipt₂.tokenNonceSha256]) ∧
        s''.executedPlanHashes.Perm (s.executedPlanHashes ++
          [plan.planSha256, plan₂.planSha256]) ∧
        ∃ rollback₂,
          buildRollbackProposal plan₂ receipt₂ requestedBy requestedAt = .ok rollback₂ ∧
          ∃ done, executeActions s'' rollback₂.actions = .ok done ∧
            inResourceOrder s'' done.updated = s'.resources := by
  have hallowed := buildPlan_allowed hplan hallow
  obtain ⟨hmoves, hsv', hexecutable, hsha, hinv, m, hs'⟩ :=
    executePlan_moves hs.validResources hexec
  obtain ⟨hrbv, hrb⟩ := buildRollbackProposal_ok hp hplan hsha hinv hexecutable hby hat
    (by have := hshort.remediationId; omega)
  have hinvExec := inverses_executable hexecutable fun a ha => by
    have := hshort.actionIds a ha; omega
  obtain ⟨-, -, sha, rfl⟩ := buildPlan_ok hplan
  refine ⟨_, hrb, ?_, ?_, ?_, hmoves.reverse.execute hinvExec, ?_⟩
  · exact assessProposal_allow.mpr
      (hallowed.rollback hmoves (hallowed.run hp).1 (by rw [hs']; rfl) rfl rfl rfl rfl)
  · exact aggregateRisk_inverse _
  · exact congrArg (requiredApprovals · config) (aggregateRisk_inverse _)
  · intro m₃ m₄ plan₂ status₂ request₂ token₂ secret₂ manifest₂ s'' receipt₂ hplan₂ hexec₂
    obtain ⟨hmoves₂, -, hexecutable₂, hsha₂, hinv₂, m₂, hs''⟩ := executePlan_moves hsv' hexec₂
    have hactions₂ : plan₂.actions = (proposal.actions.map RemediationAction.inverse).reverse := by
      obtain ⟨-, -, sha₂, rfl⟩ := buildPlan_ok hplan₂
      rfl
    have hid₂ : plan₂.remediationId = proposal.remediationId ++ "-rollback" := by
      obtain ⟨-, -, sha₂, rfl⟩ := buildPlan_ok hplan₂
      rfl
    have hshort₁ : proposal.remediationId.length ≤ 1900 := hshort.remediationId
    have hsuffix : "-rollback".length = 9 := by decide
    obtain ⟨-, hrb₂⟩ := buildRollbackProposal_ok hrbv hplan₂ hsha₂ hinv₂ hexecutable₂ hby hat
      (by rw [hid₂, String.length_append]; omega)
    have hlen₂ : ∀ a ∈ plan₂.actions, a.actionId.length ≤ 1960 := by
      intro b hb
      simp only [hactions₂, List.mem_reverse, List.mem_map] at hb
      obtain ⟨a, ha, rfl⟩ := hb
      have := hshort.actionIds a ha
      have hprefix : "reverse-".length = 8 := by decide
      rw [RemediationAction.inverse_actionId, String.length_append]
      omega
    have hsame : s''.resources = s.resources :=
      Moves.resources_eq hmoves₂ (hactions₂ ▸ hmoves.reverse)
    refine ⟨hsame, ?_, ?_, ?_, ?_, ?_, _, hrb₂,
      hmoves₂.reverse.execute (inverses_executable hexecutable₂ hlen₂)⟩
    · rw [hs'', hs']; rfl
    · rw [hs'', hs']; rfl
    · rw [hs'', hs']; rfl
    · rw [hs'']
      show (sorted (s'.consumedTokenNonceHashes ++ _)).Perm _
      rw [hs']
      exact sorted_snoc_perm
    · rw [hs'']
      show (sorted (s'.executedPlanHashes ++ _)).Perm _
      rw [hs']
      exact sorted_snoc_perm

end

theorem plan_built : buildPlan Sample.report Sample.state Sample.proposal Sample.config
    (Sample.sha 3) (Sample.sha 4) = .ok (Sample.plan (Sample.sha 4)) := by
  exact buildPlan_draft Sample.proposal_valid Sample.assess_outcome.2 Sample.report_sources
    (Sample.sha_hex 3) (Sample.sha_hex 4)

section
local instance rollbackTokens : TokenFormat := Sample.executionTokens

theorem rollback_restores_sample : ∃ s' receipt rollback,
    buildRollbackProposal (Sample.plan (Sample.sha 4)) receipt "carol" (Sample.at_ 20) =
      .ok rollback ∧
    (assessProposal Sample.report s' rollback Sample.config).outcome = .allow ∧
    ∃ done, executeActions s' rollback.actions = .ok done ∧
      inResourceOrder s' done.updated = Sample.state.resources := by
  obtain ⟨s', receipt, hexec⟩ := plan_executes
  obtain ⟨rollback, hrollback, hallow, -, -, hdone, -⟩ :=
    rollback_restores (by decide +kernel : Model.Valid Sample.state)
      Sample.proposal_valid plan_built Sample.assess_outcome.1 hexec
      (by decide : isIdentifier "carol" = true) (by decide : (Sample.at_ 20).Aware)
      ⟨by decide, by decide⟩
  exact ⟨s', receipt, rollback, hrollback, hallow, hdone⟩

end

end Paic.Remediation
