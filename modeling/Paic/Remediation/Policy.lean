import Paic.Lib.Checks
import Paic.Remediation.Config

/-!
# Risk assessment and plan construction

`assess_proposal` collects every reason to deny a proposal and allows it when
there is none; `build_plan` binds the decision, the report and the control
state into a plan under its own hash, and `verify_plan` checks that hash.
-/

namespace Paic.Remediation

open Checks (raiseIf)

-- ---------------------------------------------------------------------------
-- The investigation's report
-- ---------------------------------------------------------------------------

inductive ReportStatus where
  | concluded | abstained | failed
  deriving DecidableEq, Repr

structure ComputedHypothesis where
  hypothesisId : String
  posteriorProbability : Rat
  supportingEvidenceIds : List String
  deriving DecidableEq, Repr

/-- The fields of an investigation report that remediation reads. -/
structure InvestigationReport where
  incidentId : String
  status : ReportStatus
  selectedHypothesisId : Option String
  confidence : Rat
  normalizedEntropy : Rat
  posteriorMargin : Rat
  hypotheses : List ComputedHypothesis
  observedEvidenceRecordIds : List String
  sourceManifestHashes : List (String × String)
  reportSha256 : String
  deriving DecidableEq, Repr

-- ---------------------------------------------------------------------------
-- Risk
-- ---------------------------------------------------------------------------

/-- `_BLAST_ORDER` -/
def blastOrder : BlastRadius → Nat
  | .singleInstance => 0
  | .singleService => 1
  | .multiService => 2
  | .region => 3
  | .global => 4

/-- `_RISK_ORDER` -/
def riskOrder : RiskLevel → Nat
  | .low => 0
  | .medium => 1
  | .high => 2
  | .critical => 3

def baseRisk : ActionType → Nat
  | .featureFlagSet => 0
  | .configurationRestore => 1
  | .deploymentRollback => 2

def radiusEscalation : BlastRadius → Nat
  | .singleInstance | .singleService => 0
  | .multiService => 1
  | .region => 2
  | .global => 3

def actionRisk (a : RemediationAction) : RiskLevel :=
  match min 3 (baseRisk a.actionType + radiusEscalation a.blastRadius) with
  | 0 => .low
  | 1 => .medium
  | 2 => .high
  | _ => .critical

/-- `max(..., key=_RISK_ORDER.__getitem__)`: the first of the largest. The
list is never empty; `low` stands for the `ValueError` of an empty one. -/
def aggregateRisk (actions : List RemediationAction) : RiskLevel :=
  actions.foldl (fun risk a => if riskOrder risk < riskOrder (actionRisk a) then actionRisk a
    else risk) .low

def requiredApprovals (risk : RiskLevel) (config : RemediationConfig) : Nat :=
  match risk with
  | .low => config.approval.lowRiskApprovals
  | .medium => config.approval.mediumRiskApprovals
  | .high => config.approval.highRiskApprovals
  | .critical => config.approval.highRiskApprovals

-- ---------------------------------------------------------------------------
-- Assessment
-- ---------------------------------------------------------------------------

/-- `_resource_index`: in a dict comprehension the last of equal keys wins. -/
def resourceIndex (state : ControlState) : String → Option ControlResource :=
  fun id => state.resources.reverse.find? fun r => r.resourceId == id

/-- `_validate_action_state` -/
def validateActionState (action : RemediationAction) (resource : Option ControlResource) :
    Option String :=
  match action, resource with
  | a, none => some s!"action {a.actionId} targets unknown resource {a.resourceId}"
  | .rollbackDeployment b _ expected target, some (.deployment r) =>
    if r.currentRevision ≠ expected then
      some s!"action {b.actionId} has a stale deployment precondition"
    else if target ∉ r.availableRevisions then
      some s!"action {b.actionId} targets an unavailable deployment revision"
    else none
  | .rollbackDeployment b .., some _ =>
    some s!"action {b.actionId} targets a non-deployment resource"
  | .setFeatureFlag b _ expected _, some (.featureFlag r) =>
    if r.enabled ≠ expected then
      some s!"action {b.actionId} has a stale feature-flag precondition"
    else none
  | .setFeatureFlag b .., some _ =>
    some s!"action {b.actionId} targets a non-feature-flag resource"
  | .restoreConfiguration b _ expected target, some (.configuration r) =>
    if r.currentVersion ≠ expected then
      some s!"action {b.actionId} has a stale configuration precondition"
    else if target ∉ r.availableVersions then
      some s!"action {b.actionId} targets an unavailable configuration version"
    else none
  | .restoreConfiguration b .., some _ =>
    some s!"action {b.actionId} targets a non-configuration resource"

/-- `_selected_hypothesis` -/
def selectedHypothesis (report : InvestigationReport) : Option ComputedHypothesis :=
  report.hypotheses.find? fun h => some h.hypothesisId == report.selectedHypothesisId

/-- `reasons.append(text)` when the condition holds. -/
def reasonIf (c : Prop) [Decidable c] (text : String) : List String := if c then [text] else []

/-- The reasons that do not depend on single actions, in the order of the
checks. -/
def reportReasons (report : InvestigationReport) (state : ControlState)
    (proposal : RemediationProposal) (config : RemediationConfig) : List String :=
  let gate := config.investigationGate
  reasonIf (report.status ≠ .concluded) "investigation must be concluded before remediation" ++
  reasonIf (report.reportSha256 ≠ proposal.investigationReportSha256)
    "proposal is not bound to the investigation report" ++
  reasonIf (report.incidentId ≠ proposal.incidentId ∨ state.incidentId ≠ proposal.incidentId)
    "proposal, investigation, and control state must share an incident ID" ++
  reasonIf (report.selectedHypothesisId ≠ some proposal.selectedHypothesisId)
    "proposal selected hypothesis differs from the investigation" ++
  (match selectedHypothesis report with
    | none => ["investigation selected hypothesis is missing"]
    | some selected =>
      reasonIf (selected.posteriorProbability < gate.minimumSelectedPosterior)
        "selected posterior is below the remediation threshold" ++
      reasonIf (selected.supportingEvidenceIds.length < gate.minimumSupportingEvidence)
        "selected hypothesis has insufficient supporting evidence") ++
  reasonIf (report.confidence < gate.minimumConfidence)
    "investigation confidence is below the remediation threshold" ++
  reasonIf (report.posteriorMargin < gate.minimumPosteriorMargin)
    "investigation posterior margin is below the remediation threshold" ++
  reasonIf (report.normalizedEntropy > gate.maximumNormalizedEntropy)
    "investigation entropy is above the remediation threshold" ++
  reasonIf (proposal.actions.length > config.remediation.maximumActions)
    "proposal exceeds the maximum action count"

/-- The evidence of the selected hypothesis, empty when there is none. -/
def allowedEvidence (report : InvestigationReport) : List String :=
  match selectedHypothesis report with
  | some selected => selected.supportingEvidenceIds
  | none => []

def actionReasons (report : InvestigationReport) (state : ControlState)
    (config : RemediationConfig) (action : RemediationAction) : List String :=
  reasonIf (action.actionType ∉ config.remediation.allowedActionTypes)
    s!"action type {action.actionType.text} is not allowed" ++
  reasonIf (blastOrder action.blastRadius > blastOrder config.remediation.maximumBlastRadius)
    s!"action {action.actionId} exceeds the maximum blast radius" ++
  reasonIf (¬ action.evidenceIds ⊆ report.observedEvidenceRecordIds)
    s!"action {action.actionId} cites unobserved evidence" ++
  reasonIf (¬ action.evidenceIds ⊆ allowedEvidence report)
    s!"action {action.actionId} lacks selected-hypothesis support" ++
  (validateActionState action (resourceIndex state action.resourceId)).toList

/-- Every reason `assess_proposal` finds against a proposal. -/
def denialReasons (report : InvestigationReport) (state : ControlState)
    (proposal : RemediationProposal) (config : RemediationConfig) : List String :=
  reportReasons report state proposal config ++
  proposal.actions.flatMap (actionReasons report state config) ++
  reasonIf (aggregateRisk proposal.actions = .critical ∧ config.remediation.denyCriticalRisk = true)
    "critical-risk remediation is denied by policy"

def assessProposal (report : InvestigationReport) (state : ControlState)
    (proposal : RemediationProposal) (config : RemediationConfig) : PolicyDecision :=
  let reasons := denialReasons report state proposal config
  let risk := aggregateRisk proposal.actions
  { outcome := if reasons = [] then .allow else .deny
    reasons := if reasons = [] then ["proposal satisfies all deterministic remediation gates"]
      else reasons
    riskLevel := risk
    requiredApprovals := requiredApprovals risk config }

-- ---------------------------------------------------------------------------
-- Plans
-- ---------------------------------------------------------------------------

/-- The plan `build_plan` validates, under the hash it is given. -/
def planDraft [Hashing] (report : InvestigationReport) (proposal : RemediationProposal)
    (config : RemediationConfig) (decision : PolicyDecision)
    (investigationManifestSha256 controlStateManifestSha256 planSha256 : String) :
    RemediationPlan :=
  { remediationId := proposal.remediationId
    incidentId := proposal.incidentId
    investigationReportSha256 := proposal.investigationReportSha256
    investigationManifestSha256
    controlStateManifestSha256
    sourceManifestHashes := report.sourceManifestHashes
    selectedHypothesisId := proposal.selectedHypothesisId
    requestedBy := proposal.requestedBy
    requestedAt := proposal.requestedAt
    expiresAt := proposal.requestedAt.addMinutes config.approval.planTtlMinutes
    summary := proposal.summary
    expectedOutcome := proposal.expectedOutcome
    rollbackTrigger := proposal.rollbackTrigger
    actions := proposal.actions
    riskLevel := decision.riskLevel
    requiredApprovals := decision.requiredApprovals
    status := decision.outcome.planStatus
    policyDecision := decision
    proposalSha256 := digest proposal.modelDump
    planSha256 }

/-- `build_plan`. The policy decision itself is validated too: it may hold at
most a hundred reasons. -/
def buildPlan [Hashing] (report : InvestigationReport) (state : ControlState)
    (proposal : RemediationProposal) (config : RemediationConfig)
    (investigationManifestSha256 controlStateManifestSha256 : String) :
    Except Error RemediationPlan := do
  let decision := assessProposal report state proposal config
  raiseIf (¬ decision.Valid) .valueError
  let draft := planDraft report proposal config decision investigationManifestSha256
    controlStateManifestSha256
  let unsigned ← modelValidate (draft zeroHash)
  modelValidate (draft (digest (.obj unsigned.unsigned)))

/-- `verify_plan` -/
def verifyPlan [Hashing] (plan : RemediationPlan) : Except Error Unit := do
  raiseIf (digest (.obj plan.unsigned) ≠ plan.planSha256)
    (.policyError "remediation plan hash is invalid")
  raiseIf (plan.status ≠ plan.policyDecision.outcome.planStatus)
    (.policyError "remediation plan status is inconsistent")

end Paic.Remediation
