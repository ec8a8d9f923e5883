import Paic.Platform
import Paic.Remediation.Executor

/-!
# An incident on the computing platform

A small control state, an investigation and a proposal against it, with the
decisions, the claims and the token that authorize its plan. The results of
the development are applied to it to show that their hypotheses can be met.
-/

namespace Paic.Remediation.Sample

def sha (n : Nat) : String := Platform.hexText n

theorem sha_hex (n : Nat) : isSha256 (sha n) = true := Platform.hexText_isSha256 n

def at_ (minutes : Int) : Datetime := { instant := minutes * 60000000, utcoffset := some 0 }

def checkout : ControlResource := .featureFlag { resourceId := "checkout", enabled := true }

def limits : ControlResource :=
  .configuration
    { resourceId := "limits", currentVersion := "v2", availableVersions := ["v1", "v2"] }

def state : ControlState :=
  { stateId := "state"
    incidentId := "incident"
    generation := 0
    resources := [checkout, limits]
    consumedTokenNonceHashes := []
    executedPlanHashes := [] }

def report : InvestigationReport :=
  { incidentId := "incident"
    status := .concluded
    selectedHypothesisId := some "flag"
    confidence := 9 / 10
    normalizedEntropy := 1 / 10
    posteriorMargin := 1 / 2
    hypotheses :=
      [{ hypothesisId := "flag", posteriorProbability := 9 / 10
         supportingEvidenceIds := ["log-1", "log-2"] }]
    observedEvidenceRecordIds := ["log-1", "log-2", "log-3"]
    sourceManifestHashes := [("dataset", sha 1)]
    reportSha256 := sha 2 }

def alice : ApproverIdentity :=
  { approverId := "alice", approverGroup := "sre", keyId := "alice-key", keyEnv := "ALICE" }

def bob : ApproverIdentity :=
  { approverId := "bob", approverGroup := "sre", keyId := "bob-key", keyEnv := "BOB" }

/-- Critical risk is not denied, and both approvers are in one group. -/
def config : RemediationConfig where
  policyId := "policy"
  investigationGate := .default
  remediation := { RemediationPolicy.default with
    denyCriticalRisk := false
    maximumBlastRadius := .global }
  approval := .withRegistry [alice, bob] (by decide) (by decide) (by decide) (by decide)
  policyId_key := by decide

def base (actionId : String) (blastRadius : BlastRadius) : ActionBase :=
  { actionId, blastRadius, evidenceIds := ["log-1"], justification := "The flag broke checkout." }

def disableFlag : RemediationAction :=
  .setFeatureFlag (base "disable" .singleService) "checkout" true false

def restoreLimits : RemediationAction :=
  .restoreConfiguration (base "restore" .singleService) "limits" "v2" "v1"

def proposal : RemediationProposal :=
  { remediationId := "remediation"
    incidentId := "incident"
    investigationReportSha256 := sha 2
    selectedHypothesisId := "flag"
    requestedBy := "carol"
    requestedAt := at_ 0
    summary := "Disable the flag."
    expectedOutcome := "Checkout recovers."
    rollbackTrigger := "Errors rise."
    actions := [disableFlag, restoreLimits] }

/-- A plan under its own hash. -/
def sealed (plan : RemediationPlan) : RemediationPlan :=
  { plan with planSha256 := digest (.obj plan.unsigned) }

/-- The plan for the proposal, bound to the manifest of a control state. -/
def plan (controlStateManifestSha256 : String) : RemediationPlan :=
  sealed (planDraft report proposal config (assessProposal report state proposal config) (sha 3)
    controlStateManifestSha256 zeroHash)

def disableEverywhere : RemediationAction :=
  .setFeatureFlag (base "disable" .global) "checkout" true false

/-- A flag switched off everywhere is of critical risk. -/
def criticalProposal : RemediationProposal := { proposal with actions := [disableEverywhere] }

def criticalPlan : RemediationPlan :=
  sealed (planDraft report criticalProposal config
    (assessProposal report state criticalProposal config) (sha 3) (sha 4) zeroHash)

def request : ExecutionRequest :=
  { executionId := "execution", executedBy := "dave", executedAt := at_ 10 }

def environ : Environ
  | "ALICE" => some "alice keeps a key of more than 32 bytes"
  | "BOB" => some "bob keeps another key of more than 32 bytes"
  | _ => none

/-- A decision at minute 5, attested with a key. -/
def decision (identity : ApproverIdentity) (verdict : Decision) (key nonce : String)
    (plan : RemediationPlan) : ApprovalDecision :=
  let unattested : ApprovalDecision :=
    { planSha256 := plan.planSha256
      approverId := identity.approverId
      approverGroup := identity.approverGroup
      decision := verdict
      reason := "Reviewed."
      decidedAt := at_ 5
      attestation := none }
  let signature := hmac key
    (attestationPayload unattested identity.approverGroup identity.keyId nonce)
  { unattested with attestation := some { keyId := identity.keyId, nonce, signature } }

def approval : ApprovalDecision :=
  decision alice .approve "alice keeps a key of more than 32 bytes" "nonce of alice 1" criticalPlan

def secret : Bytes := List.replicate 32 7

/-- Claims that authorize a plan under a snapshot of its decisions. -/
def claims (plan : RemediationPlan) (approvalSnapshotSha256 nonce : String) :
    ApprovalTokenClaims :=
  { tokenId := "token"
    planSha256 := plan.planSha256
    incidentId := plan.incidentId
    actionIds := plan.actions.map RemediationAction.actionId
    approvalSnapshotSha256
    issuedAt := at_ 6
    expiresAt := at_ 16
    nonce }

/-- An approved status under a snapshot. -/
def status (plan : RemediationPlan) (approvalSnapshotSha256 : String) : ApprovalStatus :=
  { planSha256 := plan.planSha256
    status := .approved
    requiredApprovals := plan.requiredApprovals
    approvalCount := 1
    rejectionCount := 0
    approverIds := ["alice"]
    approverGroups := ["sre"]
    evaluatedAt := at_ 10
    approvalSnapshotSha256 }

/-- A ledger whose lines are the records themselves. -/
instance : TextCodec ApprovalLedgerRecord ApprovalLedgerRecord where
  dump r := r
  load r := if Model.Valid r then some r else none
  load_valid h := by split at h <;> simp_all
  load_dump h := by simp [h]
  eq_of_load_dump h := by split at h <;> simp_all

/-- Token segments are hex, and a payload is a number of the claims issued. -/
@[reducible] def tokenFormat (issued : List ApprovalTokenClaims) : TokenFormat where
  b64decode s := Platform.readHexBytes s.toList
  b64encode := Platform.hexBytes
  hmacDigest key payload :=
    Platform.bytes 32 ((key ++ payload).foldl (fun h b => Platform.mix h b.toNat) 15)
  loadClaims
    | [n] => issued[n.toNat]?.filter fun c => Model.Valid c
    | _ => none
  loadClaims_valid {payload claims} h := by
    split at h
    · exact of_decide_eq_true (p := Model.Valid claims) (Option.filter_eq_some_iff.mp h).2
    · simp at h

/-- The token of the claims issued as number `n`. -/
def token (n : UInt8) : String :=
  Platform.hexBytes [n] ++ "." ++
    Platform.hexBytes ((tokenFormat []).hmacDigest secret [n])

/-- The token that executes the plan. -/
@[reducible] def executionTokens : TokenFormat :=
  tokenFormat [claims (plan (sha 4)) (sha 5) "nonce of token 1"]

end Paic.Remediation.Sample
