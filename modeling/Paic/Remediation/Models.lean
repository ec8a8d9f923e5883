import Paic.Json
import Mathlib

/-!
# Models of governed remediation

The strict models of plans, approvals, control states and receipts. A model
is a plain record here, since `model_copy` builds one without validation;
`Valid` is what its field constraints and validators accept. The constant
`schema_version`, `status` and `approver_role` fields appear only in the JSON
form.
-/

namespace Paic.Remediation

/-- The exceptions of the package, with their texts. `valueError` stands for
pydantic's `ValidationError` and for JSON that does not parse. -/
inductive Error where
  | executionError (message : String)
  | approvalError (message : String)
  | policyError (message : String)
  | stateStoreError (message : String)
  | artifactError (message : String)
  | valueError
  | osError
  | fileExistsError
  deriving DecidableEq, Repr

/-- `str(exc)`. The texts of library exceptions are not read by any check. -/
def Error.message : Error → String
  | .executionError m | .approvalError m | .policyError m | .stateStoreError m
  | .artifactError m => m
  | .valueError => "invalid value"
  | .osError => "operating system error"
  | .fileExistsError => "file exists"

/-- `FileExistsError` is an `OSError`. -/
def Error.isOSError : Error → Bool
  | .osError | .fileExistsError => true
  | _ => false

/-- A list field with bounds on its length. -/
def lengthIn (l : List α) (low high : Nat) : Prop := low ≤ l.length ∧ l.length ≤ high

/-- A string field with `min_length` and `max_length`. -/
def textIn (s : String) (low high : Nat) : Prop := low ≤ s.length ∧ s.length ≤ high

instance (l : List α) (low high : Nat) : Decidable (lengthIn l low high) := by
  unfold lengthIn; infer_instance

instance (s : String) (low high : Nat) : Decidable (textIn s low high) := by
  unfold textIn; infer_instance

-- ---------------------------------------------------------------------------
-- Control state
-- ---------------------------------------------------------------------------

inductive BlastRadius where
  | singleInstance | singleService | multiService | region | global
  deriving DecidableEq, Repr

def BlastRadius.text : BlastRadius → String
  | .singleInstance => "single_instance"
  | .singleService => "single_service"
  | .multiService => "multi_service"
  | .region => "region"
  | .global => "global"

inductive RiskLevel where
  | low | medium | high | critical
  deriving DecidableEq, Repr

def RiskLevel.text : RiskLevel → String
  | .low => "low"
  | .medium => "medium"
  | .high => "high"
  | .critical => "critical"

structure DeploymentResource where
  resourceId : String
  currentRevision : String
  availableRevisions : List String
  deriving DecidableEq, Repr

@[mk_iff]
structure DeploymentResource.Valid (r : DeploymentResource) : Prop where
  resourceId : isIdentifier r.resourceId = true
  currentRevision : textIn r.currentRevision 1 200
  availableRevisions : lengthIn r.availableRevisions 1 50
  unique : r.availableRevisions.Nodup
  current : r.currentRevision ∈ r.availableRevisions

structure FeatureFlagResource where
  resourceId : String
  enabled : Bool
  deriving DecidableEq, Repr

@[mk_iff]
structure FeatureFlagResource.Valid (r : FeatureFlagResource) : Prop where
  resourceId : isIdentifier r.resourceId = true

structure ConfigurationResource where
  resourceId : String
  currentVersion : String
  availableVersions : List String
  deriving DecidableEq, Repr

@[mk_iff]
structure ConfigurationResource.Valid (r : ConfigurationResource) : Prop where
  resourceId : isIdentifier r.resourceId = true
  currentVersion : textIn r.currentVersion 1 200
  availableVersions : lengthIn r.availableVersions 1 50
  unique : r.availableVersions.Nodup
  current : r.currentVersion ∈ r.availableVersions

instance (r : DeploymentResource) : Decidable r.Valid :=
  decidable_of_iff' _ (DeploymentResource.valid_iff r)

instance (r : FeatureFlagResource) : Decidable r.Valid :=
  decidable_of_iff' _ (FeatureFlagResource.valid_iff r)

instance (r : ConfigurationResource) : Decidable r.Valid :=
  decidable_of_iff' _ (ConfigurationResource.valid_iff r)

inductive ControlResource where
  | deployment (r : DeploymentResource)
  | featureFlag (r : FeatureFlagResource)
  | configuration (r : ConfigurationResource)
  deriving DecidableEq, Repr

def ControlResource.resourceId : ControlResource → String
  | .deployment r => r.resourceId
  | .featureFlag r => r.resourceId
  | .configuration r => r.resourceId

def ControlResource.Valid : ControlResource → Prop
  | .deployment r => r.Valid
  | .featureFlag r => r.Valid
  | .configuration r => r.Valid

instance (r : ControlResource) : Decidable r.Valid := by
  cases r <;> unfold ControlResource.Valid <;> infer_instance

def ControlResource.modelDump : ControlResource → Json
  | .deployment r => .obj [("resource_type", .str "deployment"), ("resource_id", .str r.resourceId),
      ("current_revision", .str r.currentRevision),
      ("available_revisions", .strs r.availableRevisions)]
  | .featureFlag r => .obj [("resource_type", .str "feature_flag"),
      ("resource_id", .str r.resourceId), ("enabled", .bool r.enabled)]
  | .configuration r => .obj [("resource_type", .str "configuration"),
      ("resource_id", .str r.resourceId), ("current_version", .str r.currentVersion),
      ("available_versions", .strs r.availableVersions)]

structure ControlState where
  stateId : String
  incidentId : String
  generation : Nat
  resources : List ControlResource
  consumedTokenNonceHashes : List String
  executedPlanHashes : List String
  deriving DecidableEq, Repr

def ControlState.resourceIds (s : ControlState) : List String :=
  s.resources.map ControlResource.resourceId

@[mk_iff]
structure ControlState.Valid (s : ControlState) : Prop where
  stateId : isIdentifier s.stateId = true
  incidentId : isIdentifier s.incidentId = true
  resourceCount : lengthIn s.resources 1 500
  resources : ∀ r ∈ s.resources, r.Valid
  consumedCount : s.consumedTokenNonceHashes.length ≤ 10000
  consumed : ∀ h ∈ s.consumedTokenNonceHashes, isSha256 h = true
  executedCount : s.executedPlanHashes.length ≤ 10000
  executed : ∀ h ∈ s.executedPlanHashes, isSha256 h = true
  uniqueResources : s.resourceIds.Nodup
  uniqueConsumed : s.consumedTokenNonceHashes.Nodup
  uniqueExecuted : s.executedPlanHashes.Nodup

instance : Model ControlState where
  Valid := ControlState.Valid
  decValid s := decidable_of_iff' _ (ControlState.valid_iff s)

def ControlState.modelDump (s : ControlState) : Json :=
  .obj [("schema_version", .str "1.0"), ("state_id", .str s.stateId),
    ("incident_id", .str s.incidentId), ("generation", .int s.generation),
    ("resources", .arr (s.resources.map ControlResource.modelDump)),
    ("consumed_token_nonce_hashes", .strs s.consumedTokenNonceHashes),
    ("executed_plan_hashes", .strs s.executedPlanHashes)]

-- ---------------------------------------------------------------------------
-- Actions and proposals
-- ---------------------------------------------------------------------------

inductive ActionType where
  | deploymentRollback | featureFlagSet | configurationRestore
  deriving DecidableEq, Repr

def ActionType.text : ActionType → String
  | .deploymentRollback => "deployment.rollback"
  | .featureFlagSet => "feature_flag.set"
  | .configurationRestore => "configuration.restore"

structure ActionBase where
  actionId : String
  blastRadius : BlastRadius
  evidenceIds : List String
  justification : String
  deriving DecidableEq, Repr

@[mk_iff]
structure ActionBase.Valid (a : ActionBase) : Prop where
  actionId : isIdentifier a.actionId = true
  evidenceCount : lengthIn a.evidenceIds 1 30
  evidenceIds : ∀ e ∈ a.evidenceIds, isEvidenceRecordId e = true
  uniqueEvidence : a.evidenceIds.Nodup
  justification : textIn a.justification 1 2000

instance (a : ActionBase) : Decidable a.Valid := decidable_of_iff' _ (ActionBase.valid_iff a)

inductive RemediationAction where
  | rollbackDeployment (base : ActionBase)
      (resourceId expectedCurrentRevision targetRevision : String)
  | setFeatureFlag (base : ActionBase) (resourceId : String)
      (expectedEnabled desiredEnabled : Bool)
  | restoreConfiguration (base : ActionBase)
      (resourceId expectedCurrentVersion targetVersion : String)
  deriving DecidableEq, Repr

namespace RemediationAction

def base : RemediationAction → ActionBase
  | .rollbackDeployment b .. | .setFeatureFlag b .. | .restoreConfiguration b .. => b

def actionId (a : RemediationAction) : String := a.base.actionId

def blastRadius (a : RemediationAction) : BlastRadius := a.base.blastRadius

def evidenceIds (a : RemediationAction) : List String := a.base.evidenceIds

def resourceId : RemediationAction → String
  | .rollbackDeployment _ r .. | .setFeatureFlag _ r .. | .restoreConfiguration _ r .. => r

def actionType : RemediationAction → ActionType
  | .rollbackDeployment .. => .deploymentRollback
  | .setFeatureFlag .. => .featureFlagSet
  | .restoreConfiguration .. => .configurationRestore

def Valid : RemediationAction → Prop
  | .rollbackDeployment b r expected target =>
    b.Valid ∧ isIdentifier r = true ∧ textIn expected 1 200 ∧ textIn target 1 200 ∧
      expected ≠ target
  | .setFeatureFlag b r expected desired =>
    b.Valid ∧ isIdentifier r = true ∧ expected ≠ desired
  | .restoreConfiguration b r expected target =>
    b.Valid ∧ isIdentifier r = true ∧ textIn expected 1 200 ∧ textIn target 1 200 ∧
      expected ≠ target

instance (a : RemediationAction) : Decidable a.Valid := by
  cases a <;> unfold Valid <;> infer_instance

theorem Valid.base {a : RemediationAction} (h : a.Valid) : a.base.Valid := by
  cases a <;> exact h.1

theorem Valid.resourceId {a : RemediationAction} (h : a.Valid) :
    isIdentifier a.resourceId = true := by
  cases a <;> exact h.2.1

def modelDump (a : RemediationAction) : Json :=
  .obj ([("action_id", .str a.actionId), ("blast_radius", .str a.blastRadius.text),
    ("evidence_ids", .strs a.evidenceIds), ("justification", .str a.base.justification),
    ("action_type", .str a.actionType.text), ("resource_id", .str a.resourceId)] ++
    match a with
    | .rollbackDeployment _ _ expected target =>
      [("expected_current_revision", .str expected), ("target_revision", .str target)]
    | .setFeatureFlag _ _ expected desired =>
      [("expected_enabled", .bool expected), ("desired_enabled", .bool desired)]
    | .restoreConfiguration _ _ expected target =>
      [("expected_current_version", .str expected), ("target_version", .str target)])

end RemediationAction

structure RemediationProposal where
  remediationId : String
  incidentId : String
  investigationReportSha256 : String
  selectedHypothesisId : String
  requestedBy : String
  requestedAt : Datetime
  summary : String
  expectedOutcome : String
  rollbackTrigger : String
  actions : List RemediationAction
  deriving DecidableEq, Repr

@[mk_iff]
structure RemediationProposal.Valid (p : RemediationProposal) : Prop where
  remediationId : isIdentifier p.remediationId = true
  incidentId : isIdentifier p.incidentId = true
  investigationReportSha256 : isSha256 p.investigationReportSha256 = true
  selectedHypothesisId : isIdentifier p.selectedHypothesisId = true
  requestedBy : isIdentifier p.requestedBy = true
  requestedAt : p.requestedAt.Aware
  summary : textIn p.summary 1 2000
  expectedOutcome : textIn p.expectedOutcome 1 2000
  rollbackTrigger : textIn p.rollbackTrigger 1 2000
  actionCount : lengthIn p.actions 1 10
  actions : ∀ a ∈ p.actions, a.Valid
  uniqueActions : (p.actions.map RemediationAction.actionId).Nodup
  uniqueTargets : (p.actions.map fun a => (a.actionType, a.resourceId)).Nodup

instance : Model RemediationProposal where
  Valid := RemediationProposal.Valid
  decValid p := decidable_of_iff' _ (RemediationProposal.valid_iff p)

def RemediationProposal.modelDump [Hashing] (p : RemediationProposal) : Json :=
  .obj [("schema_version", .str "1.0"), ("remediation_id", .str p.remediationId),
    ("incident_id", .str p.incidentId),
    ("investigation_report_sha256", .str p.investigationReportSha256),
    ("selected_hypothesis_id", .str p.selectedHypothesisId), ("requested_by", .str p.requestedBy),
    ("requested_at", .datetime p.requestedAt), ("summary", .str p.summary),
    ("expected_outcome", .str p.expectedOutcome), ("rollback_trigger", .str p.rollbackTrigger),
    ("actions", .arr (p.actions.map RemediationAction.modelDump))]

-- ---------------------------------------------------------------------------
-- Plans
-- ---------------------------------------------------------------------------

inductive PolicyOutcome where
  | allow | deny
  deriving DecidableEq, Repr

def PolicyOutcome.text : PolicyOutcome → String
  | .allow => "allow"
  | .deny => "deny"

structure PolicyDecision where
  outcome : PolicyOutcome
  reasons : List String
  riskLevel : RiskLevel
  requiredApprovals : Nat
  deriving DecidableEq, Repr

@[mk_iff]
structure PolicyDecision.Valid (d : PolicyDecision) : Prop where
  reasonCount : lengthIn d.reasons 1 100
  requiredApprovals : d.requiredApprovals ≤ 10

instance (d : PolicyDecision) : Decidable d.Valid := decidable_of_iff' _ (PolicyDecision.valid_iff d)

def PolicyDecision.modelDump (d : PolicyDecision) : Json :=
  .obj [("outcome", .str d.outcome.text), ("reasons", .strs d.reasons),
    ("risk_level", .str d.riskLevel.text), ("required_approvals", .int d.requiredApprovals)]

inductive PlanStatus where
  | awaitingApproval | denied
  deriving DecidableEq, Repr

def PlanStatus.text : PlanStatus → String
  | .awaitingApproval => "awaiting_approval"
  | .denied => "denied"

structure RemediationPlan where
  remediationId : String
  incidentId : String
  investigationReportSha256 : String
  investigationManifestSha256 : String
  controlStateManifestSha256 : String
  sourceManifestHashes : List (String × String)
  selectedHypothesisId : String
  requestedBy : String
  requestedAt : Datetime
  expiresAt : Datetime
  summary : String
  expectedOutcome : String
  rollbackTrigger : String
  actions : List RemediationAction
  riskLevel : RiskLevel
  requiredApprovals : Nat
  status : PlanStatus
  policyDecision : PolicyDecision
  proposalSha256 : String
  planSha256 : String
  deriving DecidableEq, Repr

/-- The status that goes with a policy outcome. -/
def PolicyOutcome.planStatus : PolicyOutcome → PlanStatus
  | .allow => .awaitingApproval
  | .deny => .denied

@[mk_iff]
structure RemediationPlan.Valid (p : RemediationPlan) : Prop where
  remediationId : isIdentifier p.remediationId = true
  incidentId : isIdentifier p.incidentId = true
  investigationReportSha256 : isSha256 p.investigationReportSha256 = true
  investigationManifestSha256 : isSha256 p.investigationManifestSha256 = true
  controlStateManifestSha256 : isSha256 p.controlStateManifestSha256 = true
  sourceManifestHashes : ∀ h ∈ p.sourceManifestHashes, isSha256 h.2 = true
  selectedHypothesisId : isIdentifier p.selectedHypothesisId = true
  requestedBy : isIdentifier p.requestedBy = true
  requestedAt : p.requestedAt.Aware
  expiresAt : p.expiresAt.Aware
  actions : ∀ a ∈ p.actions, a.Valid
  requiredApprovals : p.requiredApprovals ≤ 10
  policyDecision : p.policyDecision.Valid
  proposalSha256 : isSha256 p.proposalSha256 = true
  planSha256 : isSha256 p.planSha256 = true
  window : p.requestedAt.instant < p.expiresAt.instant
  status : p.status = p.policyDecision.outcome.planStatus
  risk : p.riskLevel = p.policyDecision.riskLevel
  approvals : p.requiredApprovals = p.policyDecision.requiredApprovals

instance : Model RemediationPlan where
  Valid := RemediationPlan.Valid
  decValid p := decidable_of_iff' _ (RemediationPlan.valid_iff p)

/-- The JSON form without `plan_sha256`. -/
def RemediationPlan.unsigned [Hashing] (p : RemediationPlan) : List (String × Json) :=
  [("schema_version", .str "1.0"), ("remediation_id", .str p.remediationId),
    ("incident_id", .str p.incidentId),
    ("investigation_report_sha256", .str p.investigationReportSha256),
    ("investigation_manifest_sha256", .str p.investigationManifestSha256),
    ("control_state_manifest_sha256", .str p.controlStateManifestSha256),
    ("source_manifest_hashes", .obj (p.sourceManifestHashes.map fun h => (h.1, .str h.2))),
    ("selected_hypothesis_id", .str p.selectedHypothesisId), ("requested_by", .str p.requestedBy),
    ("requested_at", .datetime p.requestedAt), ("expires_at", .datetime p.expiresAt),
    ("summary", .str p.summary), ("expected_outcome", .str p.expectedOutcome),
    ("rollback_trigger", .str p.rollbackTrigger),
    ("actions", .arr (p.actions.map RemediationAction.modelDump)),
    ("risk_level", .str p.riskLevel.text), ("required_approvals", .int p.requiredApprovals),
    ("status", .str p.status.text), ("policy_decision", p.policyDecision.modelDump),
    ("proposal_sha256", .str p.proposalSha256)]

def RemediationPlan.modelDump [Hashing] (p : RemediationPlan) : Json :=
  .obj (p.unsigned ++ [("plan_sha256", .str p.planSha256)])

-- ---------------------------------------------------------------------------
-- Approvals
-- ---------------------------------------------------------------------------

inductive Decision where
  | approve | reject
  deriving DecidableEq, Repr

def Decision.text : Decision → String
  | .approve => "approve"
  | .reject => "reject"

structure ApprovalAttestation where
  keyId : String
  nonce : String
  signature : String
  deriving DecidableEq, Repr

@[mk_iff]
structure ApprovalAttestation.Valid (a : ApprovalAttestation) : Prop where
  keyId : isIdentifier a.keyId = true
  nonce : textIn a.nonce 16 200
  signature : isSha256 a.signature = true

instance (a : ApprovalAttestation) : Decidable a.Valid :=
  decidable_of_iff' _ (ApprovalAttestation.valid_iff a)

def ApprovalAttestation.modelDump (a : ApprovalAttestation) : Json :=
  .obj [("schema_version", .str "1.0"), ("key_id", .str a.keyId), ("nonce", .str a.nonce),
    ("signature", .str a.signature)]

structure ApprovalDecision where
  planSha256 : String
  approverId : String
  approverGroup : String
  decision : Decision
  reason : String
  decidedAt : Datetime
  attestation : Option ApprovalAttestation
  deriving DecidableEq, Repr

@[mk_iff]
structure ApprovalDecision.Valid (d : ApprovalDecision) : Prop where
  planSha256 : isSha256 d.planSha256 = true
  approverId : isIdentifier d.approverId = true
  approverGroup : isIdentifier d.approverGroup = true
  reason : textIn d.reason 1 2000
  decidedAt : d.decidedAt.Aware
  attestation : ∀ a ∈ d.attestation, a.Valid

instance (d : ApprovalDecision) : Decidable d.Valid :=
  decidable_of_iff' _ (ApprovalDecision.valid_iff d)

def ApprovalDecision.modelDump [Hashing] (d : ApprovalDecision) : Json :=
  .obj [("schema_version", .str "1.0"), ("plan_sha256", .str d.planSha256),
    ("approver_id", .str d.approverId), ("approver_role", .str "approver"),
    ("approver_group", .str d.approverGroup), ("decision", .str d.decision.text),
    ("reason", .str d.reason), ("decided_at", .datetime d.decidedAt),
    ("attestation", .opt ApprovalAttestation.modelDump d.attestation)]

structure ApprovalLedgerRecord where
  sequence : Nat
  previousRecordSha256 : String
  decision : ApprovalDecision
  decisionSha256 : String
  recordSha256 : String
  deriving DecidableEq, Repr

@[mk_iff]
structure ApprovalLedgerRecord.Valid (r : ApprovalLedgerRecord) : Prop where
  sequence : 1 ≤ r.sequence
  previousRecordSha256 : isSha256 r.previousRecordSha256 = true
  decision : r.decision.Valid
  decisionSha256 : isSha256 r.decisionSha256 = true
  recordSha256 : isSha256 r.recordSha256 = true

instance : Model ApprovalLedgerRecord where
  Valid := ApprovalLedgerRecord.Valid
  decValid r := decidable_of_iff' _ (ApprovalLedgerRecord.valid_iff r)

/-- The JSON form without `record_sha256`. -/
def ApprovalLedgerRecord.unsigned [Hashing] (r : ApprovalLedgerRecord) : List (String × Json) :=
  [("sequence", .int r.sequence), ("previous_record_sha256", .str r.previousRecordSha256),
    ("decision", r.decision.modelDump), ("decision_sha256", .str r.decisionSha256)]

inductive ApprovalState where
  | pending | approved | rejected | expired
  deriving DecidableEq, Repr

structure ApprovalStatus where
  planSha256 : String
  status : ApprovalState
  requiredApprovals : Nat
  approvalCount : Nat
  rejectionCount : Nat
  approverIds : List String
  approverGroups : List String
  evaluatedAt : Datetime
  approvalSnapshotSha256 : String
  deriving DecidableEq, Repr

structure ApprovalTokenClaims where
  tokenId : String
  planSha256 : String
  incidentId : String
  actionIds : List String
  approvalSnapshotSha256 : String
  issuedAt : Datetime
  expiresAt : Datetime
  nonce : String
  deriving DecidableEq, Repr

@[mk_iff]
structure ApprovalTokenClaims.Valid (c : ApprovalTokenClaims) : Prop where
  tokenId : isIdentifier c.tokenId = true
  planSha256 : isSha256 c.planSha256 = true
  incidentId : isIdentifier c.incidentId = true
  actionCount : lengthIn c.actionIds 1 10
  actionIds : ∀ a ∈ c.actionIds, isIdentifier a = true
  approvalSnapshotSha256 : isSha256 c.approvalSnapshotSha256 = true
  issuedAt : c.issuedAt.Aware
  expiresAt : c.expiresAt.Aware
  nonce : textIn c.nonce 16 200
  window : c.issuedAt.instant < c.expiresAt.instant
  unique : c.actionIds.Nodup

instance : Model ApprovalTokenClaims where
  Valid := ApprovalTokenClaims.Valid
  decValid c := decidable_of_iff' _ (ApprovalTokenClaims.valid_iff c)

-- ---------------------------------------------------------------------------
-- Execution
-- ---------------------------------------------------------------------------

structure ExecutionRequest where
  executionId : String
  executedBy : String
  executedAt : Datetime
  deriving DecidableEq, Repr

@[mk_iff]
structure ExecutionRequest.Valid (r : ExecutionRequest) : Prop where
  executionId : isIdentifier r.executionId = true
  executedBy : isIdentifier r.executedBy = true
  executedAt : r.executedAt.Aware

instance : Model ExecutionRequest where
  Valid := ExecutionRequest.Valid
  decValid r := decidable_of_iff' _ (ExecutionRequest.valid_iff r)

structure ActionExecutionReceipt where
  actionId : String
  actionType : ActionType
  resourceId : String
  beforeSha256 : String
  afterSha256 : String
  inverseAction : RemediationAction
  deriving DecidableEq, Repr

@[mk_iff]
structure ActionExecutionReceipt.Valid (r : ActionExecutionReceipt) : Prop where
  actionId : isIdentifier r.actionId = true
  resourceId : isIdentifier r.resourceId = true
  beforeSha256 : isSha256 r.beforeSha256 = true
  afterSha256 : isSha256 r.afterSha256 = true
  inverseAction : r.inverseAction.Valid

instance (r : ActionExecutionReceipt) : Decidable r.Valid :=
  decidable_of_iff' _ (ActionExecutionReceipt.valid_iff r)

def ActionExecutionReceipt.modelDump (r : ActionExecutionReceipt) : Json :=
  .obj [("action_id", .str r.actionId), ("action_type", .str r.actionType.text),
    ("resource_id", .str r.resourceId), ("before_sha256", .str r.beforeSha256),
    ("after_sha256", .str r.afterSha256), ("inverse_action", r.inverseAction.modelDump),
    ("status", .str "executed")]

structure ExecutionReceipt where
  executionId : String
  remediationId : String
  incidentId : String
  executedBy : String
  executedAt : Datetime
  planSha256 : String
  approvalSnapshotSha256 : String
  tokenSha256 : String
  tokenNonceSha256 : String
  beforeStateManifestSha256 : String
  afterStatePayloadSha256 : String
  actionReceipts : List ActionExecutionReceipt
  receiptSha256 : String
  deriving DecidableEq, Repr

@[mk_iff]
structure ExecutionReceipt.Valid (r : ExecutionReceipt) : Prop where
  executionId : isIdentifier r.executionId = true
  remediationId : isIdentifier r.remediationId = true
  incidentId : isIdentifier r.incidentId = true
  executedBy : isIdentifier r.executedBy = true
  executedAt : r.executedAt.Aware
  planSha256 : isSha256 r.planSha256 = true
  approvalSnapshotSha256 : isSha256 r.approvalSnapshotSha256 = true
  tokenSha256 : isSha256 r.tokenSha256 = true
  tokenNonceSha256 : isSha256 r.tokenNonceSha256 = true
  beforeStateManifestSha256 : isSha256 r.beforeStateManifestSha256 = true
  afterStatePayloadSha256 : isSha256 r.afterStatePayloadSha256 = true
  actionCount : lengthIn r.actionReceipts 1 10
  actionReceipts : ∀ a ∈ r.actionReceipts, a.Valid
  receiptSha256 : isSha256 r.receiptSha256 = true

instance : Model ExecutionReceipt where
  Valid := ExecutionReceipt.Valid
  decValid r := decidable_of_iff' _ (ExecutionReceipt.valid_iff r)

/-- The JSON form without `receipt_sha256`. -/
def ExecutionReceipt.unsigned [Hashing] (r : ExecutionReceipt) : List (String × Json) :=
  [("schema_version", .str "1.0"), ("execution_id", .str r.executionId),
    ("remediation_id", .str r.remediationId), ("incident_id", .str r.incidentId),
    ("executed_by", .str r.executedBy), ("executed_at", .datetime r.executedAt),
    ("status", .str "executed"), ("plan_sha256", .str r.planSha256),
    ("approval_snapshot_sha256", .str r.approvalSnapshotSha256),
    ("token_sha256", .str r.tokenSha256), ("token_nonce_sha256", .str r.tokenNonceSha256),
    ("before_state_manifest_sha256", .str r.beforeStateManifestSha256),
    ("after_state_payload_sha256", .str r.afterStatePayloadSha256),
    ("action_receipts", .arr (r.actionReceipts.map ActionExecutionReceipt.modelDump))]

def ExecutionReceipt.modelDump [Hashing] (r : ExecutionReceipt) : Json :=
  .obj (r.unsigned ++ [("receipt_sha256", .str r.receiptSha256)])

/-- `Model.model_validate`: the value itself, or a `ValidationError`. -/
def modelValidate [Model α] (a : α) : Except Error α :=
  if Model.Valid a then .ok a else .error .valueError

theorem modelValidate_ok [Model α] {a b : α} :
    modelValidate a = .ok b ↔ Model.Valid a ∧ b = a := by
  unfold modelValidate
  split <;> simp_all [eq_comm]

end Paic.Remediation
