import Paic.Lib.Checks
import Paic.Remediation.Config
import Mathlib

/-!
# Approval decisions and authorization tokens

Decisions go into an append-only ledger, each record chained to the one
before. `evaluate_approval` reads the whole ledger against one plan and one
moment; `verify_token` checks a token against the status it returned.
-/

namespace Paic.Remediation

open Checks (raiseIf need loop)

-- ---------------------------------------------------------------------------
-- Attestations
-- ---------------------------------------------------------------------------

/-- `os.environ`. -/
abbrev Environ := String → Option String

/-- `_registered_identity` -/
def registeredIdentity (config : RemediationConfig) (approverId : String) :
    Except Error ApproverIdentity :=
  need (config.approval.approverRegistry.find? (·.approverId == approverId))
    (.approvalError "approver identity is not in the trusted registry")

/-- `_attestation_payload` -/
def attestationPayload [Hashing] (decision : ApprovalDecision) (group keyId nonce : String) :
    String :=
  canonical (.obj [("schema_version", .str "1.0"), ("plan_sha256", .str decision.planSha256),
    ("approver_id", .str decision.approverId), ("approver_group", .str group),
    ("decision", .str decision.decision.text),
    ("decided_at", .str (strDatetime decision.decidedAt)), ("nonce", .str nonce),
    ("key_id", .str keyId)])

/-- `attest_decision`, with the nonce it is given or has drawn. -/
def attestDecision [Hashing] (decision : ApprovalDecision) (config : RemediationConfig)
    (secret nonce : String) : Except Error ApprovalDecision := do
  let identity ← registeredIdentity config decision.approverId
  raiseIf (secret.utf8ByteSize < config.approval.minimumSecretBytes)
    (.approvalError "approval attestation secret is shorter than the configured minimum")
  let attestation : ApprovalAttestation :=
    { keyId := identity.keyId
      nonce
      signature := hmac secret
        (attestationPayload decision identity.approverGroup identity.keyId nonce) }
  raiseIf (¬ attestation.Valid) .valueError
  pure { decision with approverGroup := identity.approverGroup, attestation := some attestation }

/-- The key an identity signs with: set in the environment, and no shorter
than the configured minimum. -/
def attestationKey (environ : Environ) (config : RemediationConfig) (identity : ApproverIdentity) :
    Option String :=
  (environ identity.keyEnv).filter fun value =>
    ¬ value.utf8ByteSize < config.approval.minimumSecretBytes

/-- `_verify_attestation`. The result is the new set of seen nonces. -/
def verifyAttestation [Hashing] (environ : Environ) (config : RemediationConfig)
    (seenNonces : List String) (decision : ApprovalDecision) : Except Error (List String) := do
  raiseIf (config.approval.approverRegistry = [])
    (.approvalError "approval identity registry is required")
  let identity ← registeredIdentity config decision.approverId
  let attestation ← need (decision.attestation.filter (·.keyId = identity.keyId))
    (.approvalError "approval attestation is missing or uses an unknown key")
  raiseIf (decision.approverGroup ≠ identity.approverGroup)
    (.approvalError "approval group differs from the trusted registry")
  raiseIf (attestation.nonce ∈ seenNonces)
    (.approvalError "approval attestation nonce is duplicated")
  let key ← need (attestationKey environ config identity)
    (.approvalError "approval attestation key is unavailable")
  let expected := hmac key
    (attestationPayload decision identity.approverGroup identity.keyId attestation.nonce)
  raiseIf (attestation.signature ≠ expected)
    (.approvalError "approval attestation signature is invalid")
  pure (attestation.nonce :: seenNonces)

-- ---------------------------------------------------------------------------
-- The ledger
-- ---------------------------------------------------------------------------

/-- The decisions file, as its non-empty lines. -/
structure ApprovalLedger (T : Type) where
  lines : List T
  deriving DecidableEq, Repr

section
variable {T : Type} [Hashing] [TextCodec T ApprovalLedgerRecord]

def ApprovalLedger.records (ledger : ApprovalLedger T) : Except Error (List ApprovalLedgerRecord) :=
  ledger.lines.mapM fun line => need (TextCodec.load line)
    (.approvalError "approval ledger contains an invalid record")

/-- The checks of `validate`, from the record expected next. -/
def checkChain (expected : Nat) (previous : String) (seenHashes : List String) :
    List ApprovalLedgerRecord → Except Error Unit
  | [] => .ok ()
  | record :: rest => do
    raiseIf (record.sequence ≠ expected ∨ record.previousRecordSha256 ≠ previous)
      (.approvalError "approval ledger sequence or chain is invalid")
    raiseIf (record.recordSha256 ∈ seenHashes)
      (.approvalError "approval ledger record hash is duplicated")
    raiseIf (record.decisionSha256 ≠ digest record.decision.modelDump)
      (.approvalError "approval ledger decision hash is invalid")
    raiseIf (digest (.obj record.unsigned) ≠ record.recordSha256)
      (.approvalError "approval ledger record hash is invalid")
    checkChain (expected + 1) record.recordSha256 (record.recordSha256 :: seenHashes) rest

def ApprovalLedger.validate (ledger : ApprovalLedger T) :
    Except Error (List ApprovalLedgerRecord) := do
  let records ← ledger.records
  checkChain 1 zeroHash [] records
  pure records

/-- The record `append` builds on top of `records`. -/
def nextRecord (records : List ApprovalLedgerRecord) (decision : ApprovalDecision) :
    Except Error ApprovalLedgerRecord := do
  raiseIf (∃ item ∈ records, item.decision.approverId = decision.approverId)
    (.approvalError "an approver may record only one decision per approval ledger")
  let previous := match records.getLast? with
    | some last => last.recordSha256
    | none => zeroHash
  let draft : ApprovalLedgerRecord :=
    { sequence := records.length + 1
      previousRecordSha256 := previous
      decision
      decisionSha256 := digest decision.modelDump
      recordSha256 := zeroHash }
  let unsigned ← modelValidate draft
  modelValidate { draft with recordSha256 := digest (.obj unsigned.unsigned) }

/-- `append`, between taking the approval lock and giving it back: the ledger
after the new line. -/
def ApprovalLedger.append (ledger : ApprovalLedger T) (decision : ApprovalDecision) :
    Except Error (ApprovalLedgerRecord × ApprovalLedger T) := do
  let records ← ledger.validate
  let record ← nextRecord records decision
  pure (record, { lines := ledger.lines ++ [TextCodec.dump record] })

-- ---------------------------------------------------------------------------
-- Evaluation
-- ---------------------------------------------------------------------------

/-- One pass of the loop of `evaluate_approval`. -/
def checkDecision (environ : Environ) (plan : RemediationPlan) (config : RemediationConfig)
    (at_ : Datetime) (seenNonces : List String) (decision : ApprovalDecision) :
    Except Error (List String) := do
  let seenNonces ← verifyAttestation environ config seenNonces decision
  raiseIf (decision.planSha256 ≠ plan.planSha256)
    (.approvalError "approval decision is bound to a different plan")
  raiseIf (decision.decidedAt.instant < plan.requestedAt.instant ∨
      plan.expiresAt.instant ≤ decision.decidedAt.instant)
    (.approvalError "approval decision falls outside the plan validity window")
  raiseIf (at_.instant < decision.decidedAt.instant)
    (.approvalError "approval decision occurs after the evaluation time")
  raiseIf (config.approval.allowRequesterApproval = false ∧
      decision.approverId = plan.requestedBy)
    (.approvalError "the remediation requester may not approve the same plan")
  pure seenNonces

def approvals (decisions : List ApprovalDecision) : List ApprovalDecision :=
  decisions.filter (·.decision = .approve)

def rejections (decisions : List ApprovalDecision) : List ApprovalDecision :=
  decisions.filter (·.decision = .reject)

/-- The number of distinct groups among the approving decisions. -/
def approvalGroupCount (decisions : List ApprovalDecision) : Nat :=
  ((approvals decisions).map ApprovalDecision.approverGroup).dedup.length

def approvalState (plan : RemediationPlan) (at_ : Datetime) (decisions : List ApprovalDecision) :
    ApprovalState :=
  if plan.status = .denied ∨ rejections decisions ≠ [] then .rejected
  else if plan.expiresAt.instant ≤ at_.instant then .expired
  else if plan.requiredApprovals ≤ (approvals decisions).length then .approved
  else .pending

/-- The hash of the decisions, independent of the order they came in. -/
def approvalSnapshot (decisions : List ApprovalDecision) : String :=
  digest (.arr ((decisions.map ApprovalDecision.modelDump).insertionSort
    fun a b => canonical a ≤ canonical b))

def evaluateApproval (environ : Environ) (plan : RemediationPlan) (ledger : ApprovalLedger T)
    (config : RemediationConfig) (at_ : Datetime) : Except Error ApprovalStatus := do
  raiseIf (¬ at_.Aware)
    (.approvalError "approval evaluation time must include a timezone offset")
  let records ← ledger.validate
  let decisions := records.map ApprovalLedgerRecord.decision
  let _ ← loop (checkDecision environ plan config at_) [] decisions
  let approverIds := (approvals decisions).map ApprovalDecision.approverId
  let groups := (approvals decisions).map ApprovalDecision.approverGroup
  raiseIf (¬ approverIds.Nodup) (.approvalError "approval identities must be unique")
  raiseIf (plan.riskLevel = .high ∧ config.approval.requireDistinctGroupsForHighRisk = true ∧
      groups.dedup.length < min plan.requiredApprovals (approvals decisions).length)
    (.approvalError "high-risk approvals must come from distinct groups")
  pure {
    planSha256 := plan.planSha256
    status := approvalState plan at_ decisions
    requiredApprovals := plan.requiredApprovals
    approvalCount := (approvals decisions).length
    rejectionCount := (rejections decisions).length
    approverIds := approverIds.insertionSort (· ≤ ·)
    approverGroups := groups.insertionSort (· ≤ ·)
    evaluatedAt := at_
    approvalSnapshotSha256 := approvalSnapshot decisions }

end

-- ---------------------------------------------------------------------------
-- Tokens
-- ---------------------------------------------------------------------------

abbrev Bytes := List UInt8

/-- What `verify_token` takes from `base64`, `hmac` and `json`: the strict
URL-safe decoder, its encoder without padding, the raw signature, and the
claims a payload holds once duplicate keys and the validators are checked. -/
class TokenFormat where
  b64decode : String → Option Bytes
  b64encode : Bytes → String
  hmacDigest : Bytes → Bytes → Bytes
  loadClaims : Bytes → Option ApprovalTokenClaims
  loadClaims_valid : loadClaims payload = some claims → claims.Valid

section
variable [TokenFormat]

/-- `_b64decode`: an encoding that does not come back the same is refused. -/
def decodeSegment (value : String) : Except Error Bytes :=
  need ((TokenFormat.b64decode value).filter fun decoded => TokenFormat.b64encode decoded = value)
    (.approvalError "approval token signature or encoding is invalid")

def verifyToken (token : String) (plan : RemediationPlan) (status : ApprovalStatus)
    (config : RemediationConfig) (at_ : Datetime) (secret : Bytes) :
    Except Error ApprovalTokenClaims := do
  raiseIf (secret.length < config.approval.minimumSecretBytes)
    (.approvalError "approval secret is shorter than the configured minimum")
  match (token.toList.splitOn '.').map String.ofList with
  | [payloadText, signatureText] => do
    let payload ← decodeSegment payloadText
    let supplied ← decodeSegment signatureText
    raiseIf (supplied ≠ TokenFormat.hmacDigest secret payload)
      (.approvalError "approval token signature is invalid")
    let claims ← need (TokenFormat.loadClaims payload)
      (.approvalError "approval token payload is invalid")
    raiseIf (status.status ≠ .approved) (.approvalError "approval status is no longer approved")
    raiseIf (claims.planSha256 ≠ plan.planSha256 ∨ claims.incidentId ≠ plan.incidentId)
      (.approvalError "approval token is bound to a different plan")
    raiseIf (claims.approvalSnapshotSha256 ≠ status.approvalSnapshotSha256)
      (.approvalError "approval token is bound to a stale approval snapshot")
    raiseIf (claims.actionIds ≠ plan.actions.map RemediationAction.actionId)
      (.approvalError "approval token action set differs from the plan")
    raiseIf (at_.instant < claims.issuedAt.instant ∨ claims.expiresAt.instant ≤ at_.instant ∨
        plan.expiresAt.instant ≤ at_.instant)
      (.approvalError "approval token is outside its validity window")
    pure claims
  | _ => .error (.approvalError "approval token structure is invalid")

end

end Paic.Remediation
