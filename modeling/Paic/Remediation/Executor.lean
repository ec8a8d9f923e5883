import Paic.Remediation.Approval
import Paic.Remediation.Policy
import Mathlib

/-!
# Simulated execution

`execute_plan` checks a plan, its approval and its token, applies the actions
one after the other to a copy of the resources, and builds the next control
state and a receipt. `verify_execution_transition` rebuilds the same from a
receipt, without the token, in a loop of its own.
-/

namespace Paic.Remediation

open Checks (raiseIf need reraise loop)

-- ---------------------------------------------------------------------------
-- One action
-- ---------------------------------------------------------------------------

/-- What an inverse action shares with the action it takes back. -/
def ActionBase.reversed (b : ActionBase) : ActionBase :=
  { b with
    actionId := s!"reverse-{b.actionId}"
    justification := s!"Reverse approved action {b.actionId}." }

/-- `Action(...)`: building an action validates it. -/
def newAction (action : RemediationAction) : Except Error RemediationAction := do
  raiseIf (¬ action.Valid) .valueError
  pure action

/-- `_apply_action`: the resource after the action, and the inverse action.
The resource is copied, not validated. -/
def applyAction : RemediationAction → ControlResource →
    Except Error (ControlResource × RemediationAction)
  | .rollbackDeployment b id expected target, .deployment r => do
    raiseIf (r.currentRevision ≠ expected)
      (.executionError s!"stale deployment precondition for {b.actionId}")
    raiseIf (target ∉ r.availableRevisions)
      (.executionError s!"unavailable deployment revision for {b.actionId}")
    let inverse ← newAction (.rollbackDeployment b.reversed id target expected)
    pure (.deployment { r with currentRevision := target }, inverse)
  | .rollbackDeployment .., _ =>
    .error (.executionError "deployment action targets a non-deployment resource")
  | .setFeatureFlag b id expected desired, .featureFlag r => do
    raiseIf (r.enabled ≠ expected)
      (.executionError s!"stale feature-flag precondition for {b.actionId}")
    let inverse ← newAction (.setFeatureFlag b.reversed id desired expected)
    pure (.featureFlag { r with enabled := desired }, inverse)
  | .setFeatureFlag .., _ =>
    .error (.executionError "feature-flag action targets a non-feature-flag resource")
  | .restoreConfiguration b id expected target, .configuration r => do
    raiseIf (r.currentVersion ≠ expected)
      (.executionError s!"stale configuration precondition for {b.actionId}")
    raiseIf (target ∉ r.availableVersions)
      (.executionError s!"unavailable configuration version for {b.actionId}")
    let inverse ← newAction (.restoreConfiguration b.reversed id target expected)
    pure (.configuration { r with currentVersion := target }, inverse)
  | .restoreConfiguration .., _ =>
    .error (.executionError "configuration action targets a non-configuration resource")

section
variable [Hashing]

/-- `ActionExecutionReceipt(...)` -/
def newActionReceipt (action : RemediationAction) (resource after : ControlResource)
    (inverse : RemediationAction) : Except Error ActionExecutionReceipt := do
  let receipt : ActionExecutionReceipt :=
    { actionId := action.actionId
      actionType := action.actionType
      resourceId := action.resourceId
      beforeSha256 := digest resource.modelDump
      afterSha256 := digest after.modelDump
      inverseAction := inverse }
  raiseIf (¬ receipt.Valid) .valueError
  pure receipt

-- ---------------------------------------------------------------------------
-- Execution
-- ---------------------------------------------------------------------------

/-- The variables `updated` and `receipts` of the loop over the actions. -/
structure Progress where
  updated : String → Option ControlResource
  receipts : List ActionExecutionReceipt

/-- One pass of the loop of `execute_plan`. -/
def executeAction (progress : Progress) (action : RemediationAction) : Except Error Progress := do
  let resource ← need (progress.updated action.resourceId)
    (.executionError s!"unknown remediation target {action.resourceId}")
  let (after, inverse) ← applyAction action resource
  let receipt ← newActionReceipt action resource after inverse
  pure {
    updated := Function.update progress.updated action.resourceId (some after)
    receipts := progress.receipts ++ [receipt] }

/-- The loop of `execute_plan`. -/
def executeActions (state : ControlState) (actions : List RemediationAction) :
    Except Error Progress :=
  loop executeAction { updated := resourceIndex state, receipts := [] } actions

/-- `[updated[resource_id] for resource_id in resource_order]` -/
def inResourceOrder (state : ControlState) (updated : String → Option ControlResource) :
    List ControlResource :=
  state.resourceIds.filterMap updated

/-- `sorted` on strings. -/
def sorted (l : List String) : List String := l.insertionSort (· ≤ ·)

/-- The state `execute_plan` copies together, without validation. -/
def stateAfter (state : ControlState) (plan : RemediationPlan) (nonceSha256 : String)
    (updated : String → Option ControlResource) : ControlState :=
  { state with
    generation := state.generation + 1
    resources := inResourceOrder state updated
    consumedTokenNonceHashes := sorted (state.consumedTokenNonceHashes ++ [nonceSha256])
    executedPlanHashes := sorted (state.executedPlanHashes ++ [plan.planSha256]) }

/-- The receipt, under the hash it is given. -/
def receiptDraft (plan : RemediationPlan) (status : ApprovalStatus) (request : ExecutionRequest)
    (token nonceSha256 beforeStateManifestSha256 : String) (after : ControlState)
    (receipts : List ActionExecutionReceipt) (receiptSha256 : String) : ExecutionReceipt :=
  { executionId := request.executionId
    remediationId := plan.remediationId
    incidentId := plan.incidentId
    executedBy := request.executedBy
    executedAt := request.executedAt
    planSha256 := plan.planSha256
    approvalSnapshotSha256 := status.approvalSnapshotSha256
    tokenSha256 := sha256 token
    tokenNonceSha256 := nonceSha256
    beforeStateManifestSha256
    afterStatePayloadSha256 := digest after.modelDump
    actionReceipts := receipts
    receiptSha256 }

variable [TokenFormat]

/-- The checks of `execute_plan` before any action runs. The result is the
hash of the token's nonce. -/
def authorizeExecution (plan : RemediationPlan) (state : ControlState) (status : ApprovalStatus)
    (config : RemediationConfig) (request : ExecutionRequest) (token : String) (secret : Bytes)
    (beforeStateManifestSha256 : String) : Except Error String := do
  reraise (verifyPlan plan) fun _ =>
    .executionError "remediation plan integrity validation failed"
  raiseIf (plan.status ≠ .awaitingApproval)
    (.executionError "only policy-allowed remediation plans may execute")
  raiseIf (beforeStateManifestSha256 ≠ plan.controlStateManifestSha256)
    (.executionError "control state differs from the plan binding")
  raiseIf (state.incidentId ≠ plan.incidentId)
    (.executionError "control state incident differs from the plan")
  raiseIf (plan.planSha256 ∈ state.executedPlanHashes)
    (.executionError "remediation plan has already executed against this state lineage")
  let claims ← reraise (verifyToken token plan status config request.executedAt secret) fun e =>
    .executionError e.message
  let nonceSha256 := sha256 claims.nonce
  raiseIf (nonceSha256 ∈ state.consumedTokenNonceHashes)
    (.executionError "approval token nonce has already been consumed")
  pure nonceSha256

def executePlan (plan : RemediationPlan) (state : ControlState) (status : ApprovalStatus)
    (config : RemediationConfig) (request : ExecutionRequest) (token : String) (secret : Bytes)
    (beforeStateManifestSha256 : String) : Except Error (ControlState × ExecutionReceipt) := do
  let nonceSha256 ← authorizeExecution plan state status config request token secret
    beforeStateManifestSha256
  let done ← executeActions state plan.actions
  let after := stateAfter state plan nonceSha256 done.updated
  let draft := receiptDraft plan status request token nonceSha256 beforeStateManifestSha256 after
    done.receipts
  let unsigned ← modelValidate (draft zeroHash)
  let receipt ← modelValidate (draft (digest (.obj unsigned.unsigned)))
  pure (after, receipt)

omit [TokenFormat]

-- ---------------------------------------------------------------------------
-- Rollback
-- ---------------------------------------------------------------------------

omit [Hashing]

/-- The proposal `build_rollback_proposal` validates. -/
def rollbackDraft (plan : RemediationPlan) (requestedBy : String) (requestedAt : Datetime)
    (inverseActions : List RemediationAction) : RemediationProposal :=
  { remediationId := s!"{plan.remediationId}-rollback"
    incidentId := plan.incidentId
    investigationReportSha256 := plan.investigationReportSha256
    selectedHypothesisId := plan.selectedHypothesisId
    requestedBy
    requestedAt
    summary := s!"Rollback executed remediation {plan.remediationId}."
    expectedOutcome := "Restore the exact pre-remediation simulated control state."
    rollbackTrigger := "A newly approved rollback plan is executed."
    actions := inverseActions }

/-- `build_rollback_proposal` -/
def buildRollbackProposal (plan : RemediationPlan) (receipt : ExecutionReceipt)
    (requestedBy : String) (requestedAt : Datetime) : Except Error RemediationProposal := do
  raiseIf (receipt.planSha256 ≠ plan.planSha256)
    (.executionError "execution receipt is bound to a different remediation plan")
  let inverseActions := receipt.actionReceipts.reverse.map ActionExecutionReceipt.inverseAction
  modelValidate (rollbackDraft plan requestedBy requestedAt inverseActions)

end

section
variable [Hashing]

-- ---------------------------------------------------------------------------
-- Reconstruction
-- ---------------------------------------------------------------------------

/-- The loop of `verify_execution_transition`, with its variables `updated`
and `expected_receipts`. -/
def reconstruct (updated : String → Option ControlResource)
    (expectedReceipts : List ActionExecutionReceipt) :
    List RemediationAction →
      Except Error ((String → Option ControlResource) × List ActionExecutionReceipt)
  | [] => .ok (updated, expectedReceipts)
  | action :: rest => do
    let resource ← need (updated action.resourceId)
      (.executionError s!"unknown remediation target {action.resourceId}")
    let (after, inverse) ← applyAction action resource
    let receipt ← newActionReceipt action resource after inverse
    reconstruct (Function.update updated action.resourceId (some after))
      (expectedReceipts ++ [receipt]) rest

/-- `verify_execution_transition` -/
def verifyExecutionTransition (plan : RemediationPlan) (before after : ControlState)
    (receipt : ExecutionReceipt) : Except Error Unit := do
  raiseIf (receipt.planSha256 ≠ plan.planSha256)
    (.executionError "execution receipt is bound to a different plan")
  raiseIf (receipt.remediationId ≠ plan.remediationId ∨ receipt.incidentId ≠ plan.incidentId)
    (.executionError "execution receipt identity differs from the plan")
  raiseIf (before.incidentId ≠ plan.incidentId ∨ after.incidentId ≠ plan.incidentId)
    (.executionError "execution state incident differs from the plan")
  raiseIf (after.generation ≠ before.generation + 1)
    (.executionError "execution state generation is invalid")
  raiseIf (before.stateId ≠ after.stateId)
    (.executionError "execution changed the control-state identity")
  raiseIf (plan.planSha256 ∈ before.executedPlanHashes)
    (.executionError "execution begins from a state where the plan was already consumed")
  raiseIf (receipt.tokenNonceSha256 ∈ before.consumedTokenNonceHashes)
    (.executionError "execution begins from a state where the token nonce was already consumed")
  raiseIf (receipt.actionReceipts.length ≠ plan.actions.length)
    (.executionError "execution action receipt count differs from the plan")
  let (updated, expectedReceipts) ← reconstruct (resourceIndex before) [] plan.actions
  let expected : ControlState :=
    { before with
      generation := before.generation + 1
      resources := before.resourceIds.filterMap updated
      consumedTokenNonceHashes :=
        sorted (before.consumedTokenNonceHashes ++ [receipt.tokenNonceSha256])
      executedPlanHashes := sorted (before.executedPlanHashes ++ [plan.planSha256]) }
  raiseIf (expected ≠ after)
    (.executionError "after-state does not match deterministic execution reconstruction")
  raiseIf (expectedReceipts ≠ receipt.actionReceipts)
    (.executionError "action receipts do not match deterministic execution reconstruction")
  raiseIf (receipt.afterStatePayloadSha256 ≠ digest after.modelDump)
    (.executionError "after-state payload hash differs from the execution receipt")

end

end Paic.Remediation
