import Paic.Remediation.PolicyLaws
import Paic.Remediation.Tokens

/-!
# Execution, reconstruction and rollback

`executePlan_ok` and `verifyExecutionTransition_ok` read the executor and the
verifier as the facts they check. Their loops compute the same, so that what
was executed verifies and what verifies is what would have been executed; and
the inverse actions of a receipt lead back to the resources before it.
-/

namespace Paic.Remediation

open Checks

-- ---------------------------------------------------------------------------
-- Reading an execution
-- ---------------------------------------------------------------------------

section
variable [Hashing]

theorem verifyPlan_ok : verifyPlan plan = .ok () ↔
    digest (.obj plan.unsigned) = plan.planSha256 ∧
      plan.status = plan.policyDecision.outcome.planStatus := by
  simp only [verifyPlan, bind_eq_ok, raiseIf_ok, ne_eq, Decidable.not_not, exists_and_left,
    exists_const]

/-- A plan under its own hash verifies. -/
theorem verifyPlan_sealed {p : RemediationPlan}
    (h : p.status = p.policyDecision.outcome.planStatus) :
    verifyPlan { p with planSha256 := digest (.obj p.unsigned) } = .ok () :=
  verifyPlan_ok.mpr ⟨rfl, h⟩

theorem executeActions_ok (h : executeActions s as = .ok done) :
    actionCommands.run (resourceIndex s) as = some done.updated ∧ (∀ a ∈ as, a.Executable) ∧
      done.receipts.map ActionExecutionReceipt.inverseAction =
        as.map RemediationAction.inverse := by
  obtain ⟨hrun, hexec, receipts, hreceipts, hinv⟩ := loop_executeAction_ok h
  exact ⟨hrun, hexec, by rw [hreceipts, List.nil_append, hinv]⟩

/-- The resources by id at the end of the loop. -/
theorem executeActions_holds (hs : s.ValidResources) (h : executeActions s as = .ok done) :
    Holds s done.updated := by
  obtain ⟨hrun, hexec, -⟩ := executeActions_ok h
  exact (resourceIndex_holds hs).run (fun a ha => (hexec a ha).2) hrun

variable [TokenFormat]

theorem authorizeExecution_ok :
    authorizeExecution plan state status config request token secret manifest = .ok nonce ↔
      verifyPlan plan = .ok () ∧ plan.status = .awaitingApproval ∧
      manifest = plan.controlStateManifestSha256 ∧ state.incidentId = plan.incidentId ∧
      plan.planSha256 ∉ state.executedPlanHashes ∧
      ∃ claims, verifyToken token plan status config request.executedAt secret = .ok claims ∧
        sha256 claims.nonce ∉ state.consumedTokenNonceHashes ∧ nonce = sha256 claims.nonce := by
  simp only [authorizeExecution, bind_eq_ok, raiseIf_ok, reraise_ok, pure_eq_ok, ne_eq,
    Decidable.not_not, exists_and_left, exists_const, @eq_comm _ _ nonce]
  exact ⟨fun h => h.choose_spec, fun h => ⟨(), h⟩⟩

theorem executePlan_ok :
    executePlan plan state status config request token secret manifest = .ok (after, receipt) ↔
      ∃ nonce done,
        authorizeExecution plan state status config request token secret manifest = .ok nonce ∧
        executeActions state plan.actions = .ok done ∧
        after = stateAfter state plan nonce done.updated ∧
        let draft := receiptDraft plan status request token nonce manifest after done.receipts
        (draft zeroHash).Valid ∧ receipt.Valid ∧
          receipt = draft (digest (.obj (draft zeroHash).unsigned)) := by
  simp only [executePlan, bind_eq_ok, modelValidate_ok, pure_eq_ok, Prod.mk.injEq]
  constructor
  · rintro ⟨nonce, ha, done, hd, _, ⟨hv, rfl⟩, _, ⟨hv', rfl⟩, rfl, rfl⟩
    exact ⟨nonce, done, ha, hd, rfl, hv, hv', rfl⟩
  · rintro ⟨nonce, done, ha, hd, rfl, hv, hv', rfl⟩
    exact ⟨nonce, ha, done, hd, _, ⟨hv, rfl⟩, _, ⟨hv', rfl⟩, rfl, rfl⟩

omit [TokenFormat]

-- ---------------------------------------------------------------------------
-- Reconstruction
-- ---------------------------------------------------------------------------

/-- The verifier's loop and the executor's pass through the same values. -/
theorem reconstruct_eq_loop :
    reconstruct updated receipts actions =
      (loop executeAction ⟨updated, receipts⟩ actions).map fun p => (p.updated, p.receipts) := by
  induction actions generalizing updated receipts with
  | nil => rfl
  | cons a rest ih =>
    simp only [reconstruct, loop, executeAction]
    cases need (updated a.resourceId)
        (Error.executionError s!"unknown remediation target {a.resourceId}") with
    | error e => rfl
    | ok resource =>
      simp only [ok_bind]
      cases applyAction a resource with
      | error e => rfl
      | ok result =>
        simp only [ok_bind]
        cases newActionReceipt a resource result.1 result.2 with
        | error e => rfl
        | ok receipt => exact ih

theorem verifyExecutionTransition_ok :
    verifyExecutionTransition plan before after receipt = .ok () ↔
      receipt.planSha256 = plan.planSha256 ∧ receipt.remediationId = plan.remediationId ∧
      receipt.incidentId = plan.incidentId ∧ before.incidentId = plan.incidentId ∧
      plan.planSha256 ∉ before.executedPlanHashes ∧
      receipt.tokenNonceSha256 ∉ before.consumedTokenNonceHashes ∧
      ∃ done, executeActions before plan.actions = .ok done ∧
        after = stateAfter before plan receipt.tokenNonceSha256 done.updated ∧
        receipt.actionReceipts = done.receipts ∧
        receipt.afterStatePayloadSha256 = digest after.modelDump := by
  simp only [verifyExecutionTransition, reconstruct_eq_loop, bind_eq_ok, raiseIf_ok, ne_eq,
    Decidable.not_not, not_or, exists_and_left, exists_const]
  constructor
  · rintro ⟨h1, ⟨h2, h3⟩, ⟨h4, h5⟩, h6, h7, h8, h9, h10, ⟨u, rs⟩, hloop, h11, h12, h13⟩
    cases hdone : executeActions before plan.actions with
    | error e => rw [← executeActions, hdone] at hloop; simp [Except.map] at hloop
    | ok done =>
      rw [← executeActions, hdone] at hloop
      simp only [Except.map, Except.ok.injEq, Prod.mk.injEq] at hloop
      obtain ⟨rfl, rfl⟩ := hloop
      exact ⟨h1, h2, h3, h4, h8, h9, done, rfl, h11.symm, h12.symm, h13⟩
  · rintro ⟨h1, h2, h3, h4, h8, h9, done, hdone, rfl, h12, h13⟩
    have hlen : receipt.actionReceipts.length = plan.actions.length := by
      have := congrArg List.length (executeActions_ok hdone).2.2
      simpa [h12] using this
    refine ⟨h1, ⟨h2, h3⟩, ⟨h4, h4⟩, rfl, rfl, h8, h9, hlen, (done.updated, done.receipts), ?_,
      rfl, h12.symm, h13⟩
    rw [← executeActions, hdone]
    rfl

variable [TokenFormat]

/-- What `execute_plan` returns passes the token-free verification. -/
theorem executePlan_verifies
    (h : executePlan plan before status config request token secret manifest =
      .ok (after, receipt)) : verifyExecutionTransition plan before after receipt = .ok () := by
  obtain ⟨nonce, done, hauth, hdone, rfl, -, -, rfl⟩ := executePlan_ok.mp h
  obtain ⟨-, -, -, hinc, hnew, claims, -, hfresh, rfl⟩ := authorizeExecution_ok.mp hauth
  exact verifyExecutionTransition_ok.mpr
    ⟨rfl, rfl, rfl, hinc, hnew, hfresh, done, hdone, rfl, rfl, rfl⟩

/-- What `execute_plan` returns passes the token-free verification; and what
passes it is the state and the receipts `execute_plan` computes from the same
state, plan and nonce. -/
theorem reconstruction_agrees (plan : RemediationPlan) (before : ControlState) :
    (∀ status config request token secret manifest after receipt,
      executePlan plan before status config request token secret manifest = .ok (after, receipt) →
      verifyExecutionTransition plan before after receipt = .ok ()) ∧
    (∀ after receipt, verifyExecutionTransition plan before after receipt = .ok () →
      (∃ done, executeActions before plan.actions = .ok done ∧
        after = stateAfter before plan receipt.tokenNonceSha256 done.updated ∧
        receipt.actionReceipts = done.receipts) ∧
      ∀ status config request token secret manifest after' receipt',
        executePlan plan before status config request token secret manifest =
          .ok (after', receipt') →
        receipt'.tokenNonceSha256 = receipt.tokenNonceSha256 →
        after' = after ∧ receipt'.actionReceipts = receipt.actionReceipts) := by
  constructor
  · intro status config request token secret manifest after receipt h
    exact executePlan_verifies h
  · intro after receipt h
    obtain ⟨-, -, -, -, -, -, done, hdone, rfl, hr, -⟩ := verifyExecutionTransition_ok.mp h
    refine ⟨⟨done, hdone, rfl, hr⟩, ?_⟩
    intro status config request token secret manifest after' receipt' h' hnonce
    obtain ⟨nonce, done', -, hdone', rfl, -, -, rfl⟩ := executePlan_ok.mp h'
    have hn : nonce = receipt.tokenNonceSha256 := hnonce
    rw [hdone, Except.ok.injEq] at hdone'
    subst hdone'
    exact ⟨by rw [hn], hr.symm⟩

end

namespace Sample

theorem plan_verifies (manifest : String) : verifyPlan (plan manifest) = .ok () :=
  verifyPlan_sealed rfl

/-- The text of the token, whatever claims were issued. -/
theorem token_segments (issued : List ApprovalTokenClaims) :
    letI := tokenFormat issued
    Segments (token 0) [0] (TokenFormat.hmacDigest secret [0]) := by
  have hsegments : @Segments (tokenFormat []) (token 0) [0]
      ((tokenFormat []).hmacDigest secret [0]) := by
    refine ⟨Platform.hexBytes [0], Platform.hexBytes ((tokenFormat []).hmacDigest secret [0]), ?_⟩
    decide +kernel
  exact hsegments

theorem claims_valid (manifest nonce : String) (hsnapshot : isSha256 snapshot = true)
    (hnonce : textIn nonce 16 200) : (claims (plan manifest) snapshot nonce).Valid where
  tokenId := (by decide : isIdentifier "token" = true)
  planSha256 := digest_hex _
  incidentId := (by decide : isIdentifier "incident" = true)
  actionCount := (by decide : lengthIn ["disable", "restore"] 1 10)
  actionIds := (by decide : ∀ a ∈ ["disable", "restore"], isIdentifier a = true)
  approvalSnapshotSha256 := hsnapshot
  issuedAt := rfl
  expiresAt := rfl
  nonce := hnonce
  window := (by decide : (at_ 6).instant < (at_ 16).instant)
  unique := (by decide : ["disable", "restore"].Nodup)

theorem actions_execute : ∃ done, executeActions state proposal.actions = .ok done := by
  have hok : (executeActions state proposal.actions).isOk = true := by decide +kernel
  cases h : executeActions state proposal.actions with
  | error e => exact absurd (h ▸ hok) nofun
  | ok done => exact ⟨done, rfl⟩

/-- The plan executes with its token, whatever manifest it is bound to and
whatever snapshot it was approved under. -/
theorem plan_executes_bound {approved : ApprovalStatus} (manifest : String)
    (hmanifest : isSha256 manifest = true) (hstatus : approved.status = .approved)
    (hsnapshot : isSha256 approved.approvalSnapshotSha256 = true) :
    letI := tokenFormat [claims (plan manifest) approved.approvalSnapshotSha256 "nonce of token 1"]
    ∃ after receipt, executePlan (plan manifest) state approved config request (token 0) secret
      manifest = .ok (after, receipt) := by
  let := tokenFormat [claims (plan manifest) approved.approvalSnapshotSha256 "nonce of token 1"]
  have hclaims := claims_valid manifest "nonce of token 1" hsnapshot (by decide)
  have hload : TokenFormat.loadClaims [0] =
      some (claims (plan manifest) approved.approvalSnapshotSha256 "nonce of token 1") := by
    exact Option.filter_eq_some_iff.mpr ⟨rfl, decide_eq_true hclaims⟩
  have hverify : verifyToken (token 0) (plan manifest) approved config request.executedAt secret =
      .ok (claims (plan manifest) approved.approvalSnapshotSha256 "nonce of token 1") := by
    refine verifyToken_ok.mpr ⟨by decide, ⟨[0], token_segments _, hload⟩, ?_⟩
    have hwindow : (at_ 6).instant ≤ (at_ 10).instant ∧ (at_ 10).instant < (at_ 16).instant ∧
        (at_ 10).instant < ((at_ 0).addMinutes config.approval.planTtlMinutes).instant := by decide
    exact ⟨hstatus, rfl, rfl, rfl, rfl, hwindow.1, hwindow.2.1, hwindow.2.2⟩
  obtain ⟨done, hdone⟩ := actions_execute
  have hreceipts := loop_executeAction_receipts hdone (by simp)
  have hcount : lengthIn done.receipts 1 10 := by
    have hlength : done.receipts.length = proposal.actions.length := by
      simpa using congrArg List.length (executeActions_ok hdone).2.2
    rw [lengthIn, hlength]
    decide
  have hnames : isIdentifier "execution" = true ∧ isIdentifier "remediation" = true ∧
      isIdentifier "incident" = true ∧ isIdentifier "dave" = true := by decide
  have hdraft : ∀ hash, isSha256 hash = true → (receiptDraft (plan manifest) approved request
      (token 0) (sha256 "nonce of token 1") manifest
      (stateAfter state (plan manifest) (sha256 "nonce of token 1") done.updated)
      done.receipts hash).Valid := fun hash hhash =>
    ⟨hnames.1, hnames.2.1, hnames.2.2.1, hnames.2.2.2, rfl, digest_hex _, hsnapshot,
      Hashing.sha256_hex _, Hashing.sha256_hex _, hmanifest, digest_hex _, hcount, hreceipts, hhash⟩
  exact ⟨_, _, executePlan_ok.mpr ⟨_, done, authorizeExecution_ok.mpr
    ⟨plan_verifies manifest, assess_outcome.1, rfl, rfl, List.not_mem_nil, _, hverify,
      List.not_mem_nil, rfl⟩, hdone, rfl, hdraft _ zeroHash_isSha256, hdraft _ (digest_hex _), rfl⟩⟩

end Sample

section
local instance executorTokens : TokenFormat := Sample.executionTokens

/-- The sample's plan executes with the sample's token. -/
theorem plan_executes : ∃ after receipt,
    executePlan (Sample.plan (Sample.sha 4)) Sample.state
      (Sample.status (Sample.plan (Sample.sha 4)) (Sample.sha 5)) Sample.config Sample.request
      (Sample.token 0) Sample.secret (Sample.sha 4) = .ok (after, receipt) :=
  Sample.plan_executes_bound (Sample.sha 4) (Sample.sha_hex 4) rfl (Sample.sha_hex 5)

theorem reconstruction_agrees_sample : ∃ after receipt,
    verifyExecutionTransition (Sample.plan (Sample.sha 4)) Sample.state after receipt = .ok () := by
  obtain ⟨after, receipt, h⟩ := plan_executes
  exact ⟨after, receipt, (reconstruction_agrees _ _).1 _ _ _ _ _ _ _ _ h⟩

end

end Paic.Remediation
